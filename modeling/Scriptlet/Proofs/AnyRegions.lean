import Scriptlet.Proofs.KeptInOrder
import Scriptlet.Proofs.LineMarks

/-!
# Building from any regions

Regions may come in any order, overlap, be empty, or not be in the document at all, and a highlighter may
give any spans or fail. What is built then is `decorate_any`: of the marks of all regions, in the order in
which they are made, those that are kept in order (`rising`); nothing of a region that is not in the document,
which the highlighter is not even asked about; and the regions it failed on. A step offers marks to the
builder (`Offered`), whether they are taken or not, and decorates lines in a way that has nothing to do with
the highlighter (`sameLines_regions`).
-/

namespace Scriptlet

/-- What a highlighter says of a fragment. -/
abbrev Reply := Except SyntaxError (List Span)

namespace Highlighter
variable {σ : Type}

/-- The replies when texts are asked about in turn. -/
def replies (h : Highlighter σ) : σ → List (List Char) → List Reply
  | _, [] => []
  | st, text :: texts => (h text st).1.1 :: replies h (h text st).2 texts

/-- The same highlighter with a record of the texts that it was asked about. -/
def recording (h : Highlighter σ) : Highlighter (σ × List (List Char)) :=
  fun text st => ((h text st.1).1, ((h text st.1).2, st.2 ++ [text]))

/-- Gives the replies of a list one after the other, and no spans when there are no more. -/
def scripted : Highlighter (List Reply) := fun _ replies =>
  match replies with
  | [] => ((.ok [], []), [])
  | reply :: rest => ((reply, []), rest)

end Highlighter

namespace Region

/-- The region is a stretch of the document. -/
def Inside (doc : Document) (r : Region) : Prop := r.start ≤ r.stop ∧ r.stop ≤ doc.length

instance (doc : Document) (r : Region) : Decidable (r.Inside doc) :=
  inferInstanceAs (Decidable (_ ∧ _))

/-- The marks of the spans, if there are any. -/
def replyMarks (r : Region) : Reply → List Mark
  | .ok spans => spanMarks r.start spans
  | .error _ => []

/-- The marks that are made for a region: its own, if it is inline, and those of the spans. A mark that would
end before it starts is not made. -/
def candidates (settings : DecorationSettings) (r : Region) (reply : Reply) : List Mark :=
  (r.inlineMarks settings ++ r.replyMarks reply).filter fun m => m.start ≤ m.stop

/-- The regions with a failure for a reply. -/
def failed (asked : List (Region × Reply)) : List Region :=
  (asked.filter fun a => !a.2.isOk).map (·.1)

/-- The starts of the lines of a block, from that of its first character to that of its last. -/
def blockLines (doc : Document) (r : Region) : List Nat :=
  match r.kind, doc.lineAt r.start, doc.lineAt (max (r.stop - 1) r.start) with
  | .block, .ok first, .ok last => (doc.lineStarts.drop first).take (last + 1 - first)
  | _, _, _ => []

/-- The starts of the lines of the blocks in the document, block after block. -/
def visitedLines (doc : Document) (rs : List Region) : List Nat :=
  (rs.filter (·.Inside doc)).flatMap (blockLines doc)

theorem failed_append (as bs : List (Region × Reply)) : failed (as ++ bs) = failed as ++ failed bs := by
  simp [failed]

end Region

namespace Highlighter
open Region
variable {σ : Type} {doc : Document} {r : Region}

/-- The regions that are in the document, each with the reply for its text. -/
def asked (h : Highlighter σ) (doc : Document) (st : σ) (rs : List Region) : List (Region × Reply) :=
  (rs.filter (·.Inside doc)).zip (h.replies st ((rs.filter (·.Inside doc)).map (fragment doc)))

theorem asked_of_inside (hr : r.Inside doc) (h : Highlighter σ) (st : σ) (rs : List Region) :
    h.asked doc st (r :: rs) =
      (r, (h (r.fragment doc) st).1.1) :: h.asked doc (h (r.fragment doc) st).2 rs := by
  unfold asked
  rw [List.filter_cons_of_pos (by simpa using hr)]
  rfl

theorem asked_of_not_inside (hr : ¬r.Inside doc) (h : Highlighter σ) (st : σ) (rs : List Region) :
    h.asked doc st (r :: rs) = h.asked doc st rs := by
  unfold asked
  rw [List.filter_cons_of_neg (by simpa using hr)]

end Highlighter

namespace Build
open Region
variable {s s' s'' t : State} {settings : DecorationSettings} {doc : Document} {r : Region}

/-- The second state is the first after marks have been offered to it and regions added as failed. -/
structure Offered (s s' : State) (marks : List Mark) (without : List Region) : Prop where
  marks : s'.marks = marks.foldl SetBuilder.offer s.marks
  unhighlighted : s'.unhighlighted.toList = s.unhighlighted.toList ++ without

theorem Offered.trans {ms ms' : List Mark} {rs rs' : List Region} (h : Offered s s' ms rs)
    (h' : Offered s' s'' ms' rs') : Offered s s'' (ms ++ ms') (rs ++ rs') where
  marks := by rw [h'.marks, h.marks, List.foldl_append]
  unhighlighted := by rw [h'.unhighlighted, h.unhighlighted, List.append_assoc]

theorem offered_nothing (hmarks : s'.marks = s.marks) (hwithout : s'.unhighlighted = s.unhighlighted) :
    Offered s s' [] [] := by
  constructor <;> simp [hmarks, hwithout]

/-! ### Marks -/

theorem offered_addMark (s : State) (m : Except DecorationError Mark) :
    Offered s (s.addMark m) m.toOption.toList [] := by
  cases m with
  | error e => exact offered_nothing rfl rfl
  | ok m =>
    by_cases h : s.marks.last ≤ m.start
    · rw [addMark_ok h]
      constructor
      · exact (if_pos h).symm
      · simp
    · have hadd : s.marks.add m = .error (.outOfOrder m.start s.marks.last) := if_neg h
      have hkept : s.addMark (.ok m) = s.tell (.decorationDropped (.outOfOrder m.start s.marks.last)) := by
        unfold State.addMark
        rw [show (Except.ok m).bind s.marks.add = s.marks.add m from rfl, hadd]
      rw [hkept]
      constructor
      · exact (if_neg h).symm
      · simp [State.tell]

theorem toList_new (start stop : Nat) (cls : String) :
    (Mark.new start stop cls).toOption.toList = [⟨start, stop, cls, .empty⟩].filter fun m => m.start ≤ m.stop := by
  unfold Mark.new
  split <;> simp [Except.toOption, *]

theorem offered_spans (s : State) (start : Nat) (spans : List Span) :
    Offered s (spans.foldl (markSpan start) s) ((spanMarks start spans).filter fun m => m.start ≤ m.stop) [] := by
  induction spans generalizing s with
  | nil => exact offered_nothing rfl rfl
  | cons span spans ih =>
    rw [List.foldl_cons]
    cases hcls : span.cls with
    | none =>
      have hstep : markSpan start s span = s := by rw [markSpan, hcls]
      rw [hstep, spanMarks, List.filterMap_cons_none (by rw [hcls]; rfl)]
      exact ih s
    | some cls =>
      have hstep : markSpan start s span = s.addMark (Mark.new (start + span.start) (start + span.stop) cls) := by
        rw [markSpan, hcls]
      have hfirst := offered_addMark s (Mark.new (start + span.start) (start + span.stop) cls)
      rw [toList_new] at hfirst
      rw [hstep, spanMarks, List.filterMap_cons_some (by rw [hcls]; rfl), ← List.singleton_append,
        List.filter_append]
      exact hfirst.trans (ih _)

/-! ### Lines -/

theorem SameLines.markLine (h : SameLines s t) (start : Nat) :
    SameLines (markLine settings s start) (markLine settings t start) := by
  obtain ⟨hlines, hlast⟩ := h
  unfold Build.markLine State.addLine
  rw [hlast]
  split
  · exact ⟨hlines, hlast⟩
  · simp only [hlines]
    split <;> exact ⟨by simp [State.tell], rfl⟩

theorem SameLines.foldl_markLine (h : SameLines s t) (starts : List Nat) :
    SameLines (starts.foldl (Build.markLine settings) s) (starts.foldl (Build.markLine settings) t) := by
  induction starts generalizing s t with
  | nil => exact h
  | cons start starts ih => exact ih (h.markLine start)

theorem lines_markLine (settings : DecorationSettings) (s : State) (start : Nat) :
    (markLine settings s start).lines =
      if s.lastLine = some start then s.lines
      else s.lines.offer ⟨start, settings.blockClass, settings.attributes⟩ := by
  unfold markLine State.addLine SetBuilder.add SetBuilder.offer
  split
  · rfl
  · dsimp only
    split
    · rename_i hadd
      split at hadd
      · rw [if_pos ‹_›]
        cases hadd
        rfl
      · cases hadd
    · rename_i hadd
      split at hadd
      · cases hadd
      · rw [if_neg ‹_›]
        rfl

theorem lastLine_markLine (settings : DecorationSettings) (s : State) (start : Nat) :
    (markLine settings s start).lastLine = some start := by
  unfold markLine State.addLine
  split
  · assumption
  · split <;> rfl

theorem inOrder_foldl_markLine (settings : DecorationSettings) (hs : s.lines.InOrder) (starts : List Nat) :
    (starts.foldl (markLine settings) s).lines.InOrder := by
  induction starts generalizing s with
  | nil => exact hs
  | cons start starts ih =>
    refine ih ?_
    rw [lines_markLine]
    split
    · exact hs
    · exact hs.offer _

theorem offered_markLine (s : State) (start : Nat) : Offered s (markLine settings s start) [] [] := by
  unfold markLine State.addLine
  split
  · exact offered_nothing rfl rfl
  · split <;> exact offered_nothing rfl rfl

theorem offered_foldl_markLine (s : State) (starts : List Nat) :
    Offered s (starts.foldl (markLine settings) s) [] [] := by
  induction starts generalizing s with
  | nil => exact offered_nothing rfl rfl
  | cons start starts ih => exact (offered_markLine s start).trans (ih _)

/-! ### Regions -/

theorem markRegion_of_inside (hr : r.Inside doc) (hkind : r.kind = .block) (settings : DecorationSettings) (s : State) :
    markRegion settings doc r s = (r.blockLines doc).foldl (markLine settings) s := by
  obtain ⟨hle, hstop⟩ := hr
  obtain ⟨first, hfirst⟩ := doc.exists_lineAt (show r.start ≤ doc.length by omega)
  obtain ⟨last, hlast⟩ := doc.exists_lineAt (show max (r.stop - 1) r.start ≤ doc.length by omega)
  unfold markRegion markLines blockLines
  rw [hkind, hfirst, hlast]

theorem offered_markRegion (hr : r.Inside doc) (settings : DecorationSettings) (s : State) :
    Offered s (markRegion settings doc r s) ((r.inlineMarks settings).filter fun m => m.start ≤ m.stop) [] := by
  cases hkind : r.kind with
  | block =>
    rw [markRegion_of_inside hr hkind, inlineMarks, hkind]
    exact offered_foldl_markLine s _
  | inline =>
    have hmark := offered_addMark s
      ((Mark.new r.start r.stop settings.inlineClass).map (·.withAttributes settings.attributes))
    unfold markRegion inlineMarks
    rw [hkind]
    have hnew : Mark.new r.start r.stop settings.inlineClass = .ok ⟨r.start, r.stop, settings.inlineClass, .empty⟩ :=
      if_pos hr.1
    rw [hnew] at hmark ⊢
    rw [List.filter_cons_of_pos (by simpa using hr.1)]
    exact hmark

theorem sameLines_markRegion (hr : r.Inside doc) (settings : DecorationSettings) (s : State) :
    SameLines ((r.blockLines doc).foldl (markLine settings) s) (markRegion settings doc r s) := by
  cases hkind : r.kind with
  | block =>
    rw [markRegion_of_inside hr hkind]
    exact .refl _
  | inline =>
    unfold markRegion blockLines
    rw [hkind]
    exact .addMark s _

section
variable {σ : Type} {h : Highlighter σ} {st : σ} {rs : List Region}

theorem region_of_not_inside (hr : ¬r.Inside doc) (settings : DecorationSettings) (h : Highlighter σ) (s : State)
    (st : σ) : region settings doc h s st r = (s.tell (.regionSkipped r (.invalidRange r.start r.stop)), st) := by
  have hslice : doc.slice r.start r.stop = .error (.invalidRange r.start r.stop) := if_neg hr
  unfold region
  rw [hslice]

theorem offered_region (hr : r.Inside doc) (settings : DecorationSettings) (h : Highlighter σ) (s : State) (st : σ) :
    Offered s (region settings doc h s st r).1 (r.candidates settings (h (r.fragment doc) st).1.1)
      (failed [(r, (h (r.fragment doc) st).1.1)]) := by
  have hslice := slice_eq hr.1 hr.2
  have hwhole := offered_markRegion hr settings s
  rw [candidates, List.filter_append]
  rcases hsaid : h (r.fragment doc) st with ⟨⟨e | spans, es⟩, st'⟩
  case error =>
    rw [region_of_error hslice hsaid]
    have hfailed : Offered (markRegion settings doc r s)
        (let s := (markRegion settings doc r s).tellAll es
        { s with unhighlighted := s.unhighlighted.push r }.tell (.unhighlighted r e)) [] [r] := by
      constructor <;> simp [State.tell, State.tellAll]
    exact hwhole.trans hfailed
  case ok =>
    rw [region_of_ok hslice hsaid]
    have htold : Offered (markRegion settings doc r s) ((markRegion settings doc r s).tellAll es) [] [] :=
      offered_nothing rfl rfl
    exact hwhole.trans (htold.trans (offered_spans _ r.start spans))

theorem region_state (hr : r.Inside doc) (settings : DecorationSettings) (h : Highlighter σ) (s : State) (st : σ) :
    (region settings doc h s st r).2 = (h (r.fragment doc) st).2 := by
  have hslice := slice_eq hr.1 hr.2
  rcases hsaid : h (r.fragment doc) st with ⟨⟨e | spans, es⟩, st'⟩
  · rw [region_of_error hslice hsaid]
  · rw [region_of_ok hslice hsaid]

theorem regions_cons (settings : DecorationSettings) (doc : Document) (h : Highlighter σ) (s : State) (st : σ)
    (r : Region) (rs : List Region) : regions settings doc h s st (r :: rs) =
      regions settings doc h (region settings doc h s st r).1 (region settings doc h s st r).2 rs := rfl

/-- What the regions offer is told by the replies for those in the document. -/
theorem offered_regions (settings : DecorationSettings) (doc : Document) (h : Highlighter σ) (s : State) (st : σ)
    (rs : List Region) :
    Offered s (regions settings doc h s st rs).1
      ((h.asked doc st rs).flatMap fun a => a.1.candidates settings a.2) (failed (h.asked doc st rs)) := by
  induction rs generalizing s st with
  | nil => exact offered_nothing rfl rfl
  | cons r rs ih =>
    have hrest := ih (region settings doc h s st r).1 (region settings doc h s st r).2
    by_cases hr : r.Inside doc
    · have hfirst := offered_region hr settings h s st
      have hsplit := failed_append [(r, (h (r.fragment doc) st).1.1)] (h.asked doc (h (r.fragment doc) st).2 rs)
      rw [List.singleton_append] at hsplit
      rw [region_state hr] at hrest
      rw [Highlighter.asked_of_inside hr, List.flatMap_cons, hsplit, regions_cons, region_state hr]
      exact hfirst.trans hrest
    · rw [Highlighter.asked_of_not_inside hr, regions_cons]
      rw [region_of_not_inside hr] at hrest ⊢
      have htold : Offered s (s.tell (.regionSkipped r (.invalidRange r.start r.stop))) [] [] :=
        offered_nothing rfl rfl
      exact htold.trans hrest

theorem sameLines_regions (settings : DecorationSettings) (doc : Document) (h : Highlighter σ) (s : State) (st : σ)
    (rs : List Region) :
    SameLines ((visitedLines doc rs).foldl (markLine settings) s) (regions settings doc h s st rs).1 := by
  induction rs generalizing s st with
  | nil => exact .refl s
  | cons r rs ih =>
    refine .trans ?_ (ih (region settings doc h s st r).1 (region settings doc h s st r).2)
    unfold visitedLines
    by_cases hr : r.Inside doc
    · rw [List.filter_cons_of_pos (by simpa using hr), List.flatMap_cons, List.foldl_append]
      exact ((sameLines_markRegion hr settings s).trans (.region h st (slice_eq hr.1 hr.2))).foldl_markLine _
    · rw [List.filter_cons_of_neg (by simpa using hr), region_of_not_inside hr]
      have htold : SameLines s (s.tell (.regionSkipped r (.invalidRange r.start r.stop))) := ⟨rfl, rfl⟩
      exact htold.foldl_markLine _

theorem region_recording (settings : DecorationSettings) (doc : Document) (h : Highlighter σ) (s : State) (st : σ)
    (texts : List (List Char)) (r : Region) :
    region settings doc h.recording s (st, texts) r =
      ((region settings doc h s st r).1, (region settings doc h s st r).2,
        texts ++ ([r].filter (·.Inside doc)).map (fragment doc)) := by
  by_cases hr : r.Inside doc
  · have hslice := slice_eq hr.1 hr.2
    rw [List.filter_cons_of_pos (by simpa using hr)]
    rcases hsaid : h (r.fragment doc) st with ⟨⟨e | spans, es⟩, st'⟩
    · have hrecorded : h.recording (r.fragment doc) (st, texts) =
          ((.error e, es), (st', texts ++ [r.fragment doc])) := by rw [Highlighter.recording, hsaid]
      rw [region_of_error hslice hsaid, region_of_error hslice hrecorded]
      rfl
    · have hrecorded : h.recording (r.fragment doc) (st, texts) =
          ((.ok spans, es), (st', texts ++ [r.fragment doc])) := by rw [Highlighter.recording, hsaid]
      rw [region_of_ok hslice hsaid, region_of_ok hslice hrecorded]
      rfl
  · rw [region_of_not_inside hr, region_of_not_inside hr, List.filter_cons_of_neg (by simpa using hr)]
    simp

theorem regions_recording (settings : DecorationSettings) (doc : Document) (h : Highlighter σ) (s : State) (st : σ)
    (texts : List (List Char)) (rs : List Region) :
    regions settings doc h.recording s (st, texts) rs =
      ((regions settings doc h s st rs).1, (regions settings doc h s st rs).2,
        texts ++ (rs.filter (·.Inside doc)).map (fragment doc)) := by
  induction rs generalizing s st texts with
  | nil => simp [regions]
  | cons r rs ih =>
    have hhead : r :: rs = [r] ++ rs := rfl
    rw [regions_cons, region_recording, ih, regions_cons, hhead, List.filter_append, List.map_append,
      List.append_assoc]

end

end Build

section
open Region
variable {σ : Type} (settings : DecorationSettings) (doc : Document) (rs : List Region) (h : Highlighter σ) (st : σ)

theorem decorate_eq : (decorate settings doc rs h st).1 =
    ⟨((visitedLines doc rs).foldl (Build.markLine settings) {}).lines.items.toList,
      rising ((h.asked doc st rs).flatMap fun a => a.1.candidates settings a.2), failed (h.asked doc st rs)⟩ := by
  have hoffered := Build.offered_regions settings doc h {} st rs
  have hlines := Build.sameLines_regions settings doc h {} st rs
  have hmarks : (Build.regions settings doc h {} st rs).1.marks =
      ((h.asked doc st rs).flatMap fun a => a.1.candidates settings a.2).foldl SetBuilder.offer {} := hoffered.marks
  show Decorations.mk _ (Build.regions settings doc h {} st rs).1.marks.items.toList _ = _
  rw [← hlines.lines, hmarks, SetBuilder.items_foldl_offer]
  exact congrArg _ hoffered.unhighlighted

theorem decorate_recording : decorate settings doc rs h.recording (st, []) =
    ((decorate settings doc rs h st).1, (decorate settings doc rs h st).2.1, (decorate settings doc rs h st).2.2,
      (rs.filter (·.Inside doc)).map (fragment doc)) := by
  unfold decorate
  rw [Build.regions_recording]
  rfl

/-- Whatever the regions are and whatever the highlighter says, the marks are those that are kept in order of
all that are made for the regions in the document. The regions that are not in it add nothing, and the
highlighter is asked about each of the others once, in order. -/
theorem decorate_any :
    (decorate settings doc rs h st).1.marks =
        rising ((h.asked doc st rs).flatMap fun a => a.1.candidates settings a.2) ∧
      (decorate settings doc rs h st).1.unhighlighted = failed (h.asked doc st rs) ∧
      ((decorate settings doc rs h st).1.marks.Pairwise fun m n => anchor m ≤ anchor n) ∧
      ((decorate settings doc rs h st).1.lines.Pairwise fun l m => anchor l ≤ anchor m) ∧
      (decorate settings doc rs h st).1 = (decorate settings doc (rs.filter (·.Inside doc)) h st).1 ∧
      decorate settings doc rs h.recording (st, []) =
        ((decorate settings doc rs h st).1, (decorate settings doc rs h st).2.1,
          (decorate settings doc rs h st).2.2, (rs.filter (·.Inside doc)).map (fragment doc)) := by
  refine ⟨?_, ?_, ?_, ?_, ?_, decorate_recording settings doc rs h st⟩
  · rw [decorate_eq]
  · rw [decorate_eq]
  · rw [decorate_eq]
    exact pairwise_rising _
  · rw [decorate_eq]
    exact (Build.inOrder_foldl_markLine settings SetBuilder.inOrder_empty _).pairwise
  · have htwice : (rs.filter (·.Inside doc)).filter (·.Inside doc) = rs.filter (·.Inside doc) := by
      rw [List.filter_filter]
      simp
    have hlines : visitedLines doc (rs.filter (·.Inside doc)) = visitedLines doc rs := by
      unfold visitedLines
      rw [htwice]
    have hasked : h.asked doc st (rs.filter (·.Inside doc)) = h.asked doc st rs := by
      unfold Highlighter.asked
      rw [htwice]
    rw [decorate_eq, decorate_eq, hlines, hasked]

end

end Scriptlet
