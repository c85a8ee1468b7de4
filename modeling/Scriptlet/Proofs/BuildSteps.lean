import Scriptlet.Decoration.Build
import Scriptlet.Proofs.LineNumbers
import Scriptlet.Proofs.ScanOrder
import Scriptlet.Proofs.SpanTiling

/-!
# Building decorations step by step

For regions in order and spans that tile their fragments no decoration is refused. The builder only
compares with the last anchor, so the invariant is a bound on it: behind a region both last anchors are
at most its end (`UpTo`), and the next region begins there or later. What a step adds to the state is
said by `Adds`, one lemma for each step; `adds_regions` is the run over all regions.
-/

namespace Scriptlet

/-- The event is a warning. -/
def Event.isWarning (e : Event) : Bool := e.level == .warn

/-- What highlighting says of the text of a fragment. -/
abbrev Answer := List Char → Except SyntaxError (List Span)

/-- The spans follow each other from the start of the text to its end. -/
def Answer.Tiles (answer : Answer) : Prop :=
  ∀ text spans, answer text = .ok spans → Span.Tiles 0 text.length spans

namespace Region

/-- The text of the region. -/
def fragment (doc : Document) (r : Region) : List Char :=
  (doc.chars.drop r.start).take (r.stop - r.start)

theorem slice_eq {doc : Document} {r : Region} (hle : r.start ≤ r.stop) (hstop : r.stop ≤ doc.length) :
    doc.slice r.start r.stop = .ok (r.fragment doc) :=
  if_pos ⟨hle, hstop⟩

theorem length_fragment {doc : Document} {r : Region} (hstop : r.stop ≤ doc.length) :
    (r.fragment doc).length = r.stop - r.start := by
  rw [fragment, List.length_take, List.length_drop]
  rw [Document.length] at hstop
  omega

/-- The mark of the whole region, if it is inline. -/
def inlineMarks (settings : DecorationSettings) (r : Region) : List Mark :=
  match r.kind with
  | .block => []
  | .inline => [⟨r.start, r.stop, settings.inlineClass, settings.attributes⟩]

/-- The marks of the spans that have a class, for a fragment that starts at the offset. -/
def spanMarks (start : Nat) (spans : List Span) : List Mark :=
  spans.filterMap fun s => s.cls.map fun cls => ⟨start + s.start, start + s.stop, cls, .empty⟩

/-- The marks of what is in the region. -/
def tokenMarks (doc : Document) (answer : Answer) (r : Region) : List Mark :=
  match answer (r.fragment doc) with
  | .ok spans => spanMarks r.start spans
  | .error _ => []

/-- Why the region could not be highlighted. -/
def failure? (doc : Document) (answer : Answer) (r : Region) : Option SyntaxError :=
  match answer (r.fragment doc) with
  | .ok _ => none
  | .error e => some e

end Region

namespace Build
open Region

variable {s s' s'' : State} {doc : Document} {r : Region} {a b offset : Nat}

/-- What is in the second state and not in the first. Of the events only the warnings count. -/
structure Adds (s s' : State) (marks : List Mark) (without : List Region) (warnings : List Event) : Prop where
  marks : s'.marks.items.toList = s.marks.items.toList ++ marks
  unhighlighted : s'.unhighlighted.toList = s.unhighlighted.toList ++ without
  warnings : s'.events.toList.filter Event.isWarning = s.events.toList.filter Event.isWarning ++ warnings

/-- The last line decorated starts at the offset or before it. -/
structure LinesUpTo (doc : Document) (offset : Nat) (s : State) : Prop where
  line : s.lines.last ∈ doc.lineStarts
  le : s.lines.last ≤ offset

/-- The last anchors are at the offset or before it. -/
structure UpTo (doc : Document) (offset : Nat) (s : State) : Prop where
  marks : s.marks.last ≤ offset
  lines : LinesUpTo doc offset s

theorem Adds.trans {ms ms' : List Mark} {rs rs' : List Region} {es es' : List Event} (h : Adds s s' ms rs es)
    (h' : Adds s' s'' ms' rs' es') : Adds s s'' (ms ++ ms') (rs ++ rs') (es ++ es') where
  marks := by rw [h'.marks, h.marks, List.append_assoc]
  unhighlighted := by rw [h'.unhighlighted, h.unhighlighted, List.append_assoc]
  warnings := by rw [h'.warnings, h.warnings, List.append_assoc]

theorem adds_nothing (hmarks : s'.marks = s.marks) (hwithout : s'.unhighlighted = s.unhighlighted)
    (hevents : s'.events = s.events) : Adds s s' [] [] [] := by
  constructor <;> simp [hmarks, hwithout, hevents]

theorem UpTo.mono (hle : a ≤ b) (h : UpTo doc a s) : UpTo doc b s :=
  ⟨Nat.le_trans h.marks hle, h.lines.line, Nat.le_trans h.lines.le hle⟩

theorem upTo_zero (doc : Document) : UpTo doc 0 {} :=
  ⟨Nat.le_refl _, doc.zero_mem_lineStarts, Nat.le_refl _⟩

/-! ### Marks -/

theorem addMark_ok {m : Mark} (h : s.marks.last ≤ m.start) :
    s.addMark (.ok m) = { s with marks := ⟨s.marks.items.push m, m.start⟩ } := by
  have hadd : s.marks.add m = .ok ⟨s.marks.items.push m, m.start⟩ := if_pos h
  rw [State.addMark, show (Except.ok m).bind s.marks.add = s.marks.add m from rfl, hadd]

theorem adds_mark (m : Mark) (h : s.marks.last ≤ m.start) : Adds s (s.addMark (.ok m)) [m] [] [] := by
  rw [addMark_ok h]
  constructor <;> simp

theorem adds_spans {spans : List Span} (start : Nat) (h : Span.Tiles a b spans)
    (hlast : s.marks.last ≤ start + a) :
    Adds s (spans.foldl (markSpan start) s) (spanMarks start spans) [] [] ∧
      (spans.foldl (markSpan start) s).marks.last ≤ start + b ∧
      (spans.foldl (markSpan start) s).lines = s.lines := by
  induction spans generalizing s a with
  | nil =>
    cases h
    exact ⟨adds_nothing rfl rfl rfl, hlast, rfl⟩
  | cons span spans ih =>
    obtain ⟨hstart, hlt, h⟩ := h
    change span.start = a at hstart
    change span.start < span.stop at hlt
    subst hstart
    rw [List.foldl_cons]
    cases hcls : span.cls with
    | none =>
      have hstep : markSpan start s span = s := by rw [markSpan, hcls]
      have hmarks : spanMarks start (span :: spans) = spanMarks start spans := by
        rw [spanMarks, List.filterMap_cons_none (by rw [hcls]; rfl)]; rfl
      rw [hstep, hmarks]
      exact ih h (by show _ ≤ start + span.stop; omega)
    | some cls =>
      have hnew : Mark.new (start + span.start) (start + span.stop) cls =
          .ok ⟨start + span.start, start + span.stop, cls, .empty⟩ := if_pos (by omega)
      have hstep : markSpan start s span = s.addMark (.ok ⟨start + span.start, start + span.stop, cls, .empty⟩) := by
        rw [markSpan, hcls]
        exact congrArg s.addMark hnew
      have hmarks : spanMarks start (span :: spans) =
          [⟨start + span.start, start + span.stop, cls, .empty⟩] ++ spanMarks start spans := by
        rw [spanMarks, List.filterMap_cons_some (by rw [hcls]; rfl)]; rfl
      have hfirst := adds_mark ⟨start + span.start, start + span.stop, cls, .empty⟩ hlast
      rw [hstep, hmarks]
      rw [addMark_ok hlast] at hfirst ⊢
      have hlast' : start + span.start ≤ start + span.stop := by omega
      obtain ⟨hadds, hle, hlines⟩ := ih (s := { s with
        marks := ⟨s.marks.items.push ⟨start + span.start, start + span.stop, cls, .empty⟩, start + span.start⟩ })
        h hlast'
      exact ⟨hfirst.trans hadds, hle, hlines⟩

/-! ### Lines -/

theorem markLine_frame (settings : DecorationSettings) {start : Nat} (h : s.lines.last ≤ start) : ∃ lines last,
    markLine settings s start = { s with lines, lastLine := last } ∧
      (lines.last = s.lines.last ∨ lines.last = start) := by
  rw [markLine]
  split
  · exact ⟨s.lines, s.lastLine, rfl, .inl rfl⟩
  · have hadd : s.lines.add ⟨start, settings.blockClass, settings.attributes⟩ =
        .ok ⟨s.lines.items.push ⟨start, settings.blockClass, settings.attributes⟩, start⟩ := if_pos h
    refine ⟨⟨s.lines.items.push ⟨start, settings.blockClass, settings.attributes⟩, start⟩, some start, ?_,
      .inr rfl⟩
    rw [State.addLine, hadd]

theorem foldl_markLine_frame (settings : DecorationSettings) {starts : List Nat}
    (hs : starts.Pairwise (· < ·)) (h : ∀ t ∈ starts, s.lines.last ≤ t) : ∃ lines last,
    starts.foldl (markLine settings) s = { s with lines, lastLine := last } ∧
      (lines.last = s.lines.last ∨ lines.last ∈ starts) := by
  induction starts generalizing s with
  | nil => exact ⟨s.lines, s.lastLine, rfl, .inl rfl⟩
  | cons t ts ih =>
    obtain ⟨ht, hts⟩ := List.pairwise_cons.1 hs
    obtain ⟨lines, last, hstep, hlast⟩ := markLine_frame settings (h t (List.mem_cons_self ..))
    rw [List.foldl_cons, hstep]
    have hrest : ∀ u ∈ ts, lines.last ≤ u := by
      intro u hu
      have := h u (List.mem_cons_of_mem _ hu)
      have := ht u hu
      rcases hlast with hlast | hlast <;> omega
    obtain ⟨lines', last', hfold, hlast'⟩ := ih (s := { s with lines, lastLine := last }) hts hrest
    refine ⟨lines', last', hfold, ?_⟩
    rcases hlast' with hlast' | hmem
    · rcases hlast with hlast | hlast
      · exact .inl (hlast'.trans hlast)
      · exact .inr (List.mem_cons.2 (.inl (hlast'.trans hlast)))
    · exact .inr (List.mem_cons_of_mem _ hmem)

theorem markLines_frame (settings : DecorationSettings) (hs : LinesUpTo doc r.start s) (hlt : r.start < r.stop)
    (hstop : r.stop ≤ doc.length) : ∃ lines last,
    markLines settings doc r s = { s with lines, lastLine := last } ∧
      lines.last ∈ doc.lineStarts ∧ lines.last ≤ r.stop := by
  obtain ⟨first, hfirst⟩ := doc.exists_lineAt (show r.start ≤ doc.length by omega)
  obtain ⟨last, hlast⟩ := doc.exists_lineAt (show max (r.stop - 1) r.start ≤ doc.length by omega)
  rw [markLines, hfirst, hlast]
  -- the lines from the first of the region on, which the last line decorated is not behind
  have hsub : ((doc.lineStarts.drop first).take (last + 1 - first)).Sublist doc.lineStarts :=
    (List.take_sublist _ _).trans (List.drop_sublist _ _)
  obtain ⟨lines, line, hfold, hline⟩ := foldl_markLine_frame settings
    (doc.pairwise_lineStarts.sublist hsub)
    (fun t ht => Document.le_of_mem_drop_lineAt hfirst hs.line hs.le (List.mem_of_mem_take ht))
  refine ⟨lines, line, hfold, ?_⟩
  rcases hline with hline | hmem
  · rw [hline]
    exact ⟨hs.line, by have := hs.le; omega⟩
  · refine ⟨hsub.subset hmem, ?_⟩
    have htake : lines.last ∈ doc.lineStarts.take (last + 1) := by
      have hle : first ≤ last + 1 := by
        refine Nat.le_of_not_lt fun hgt => ?_
        rw [Nat.sub_eq_zero_of_le (Nat.le_of_lt hgt)] at hmem
        cases hmem
      rw [List.take_drop, Nat.add_sub_cancel' hle] at hmem
      exact List.mem_of_mem_drop hmem
    have := Document.le_of_mem_take_lineAt hlast htake
    omega

/-! ### Regions -/

section
variable {σ : Type} {settings : DecorationSettings} {highlighter : Highlighter σ} {good : σ → Prop}
  {answer : Answer} {st : σ}

/-- The highlighter gives the answers and warns of nothing, as long as its state is good. -/
structure Answers (highlighter : Highlighter σ) (good : σ → Prop) (answer : Answer) : Prop where
  spans : ∀ text st, good st → (highlighter text st).1.1 = answer text
  quiet : ∀ text st, good st → ∀ e ∈ (highlighter text st).1.2, e.isWarning = false
  keeps : ∀ text st, good st → good (highlighter text st).2
  tiles : Answer.Tiles answer

theorem good_region (settings : DecorationSettings) (doc : Document) (hans : Answers highlighter good answer)
    (hgood : good st) (s : State) (r : Region) : good (region settings doc highlighter s st r).2 := by
  rw [region]
  cases doc.slice r.start r.stop with
  | error e => exact hgood
  | ok fragment =>
    have hkeeps := hans.keeps fragment st hgood
    rcases hsaid : highlighter fragment st with ⟨⟨_ | _, es⟩, st'⟩ <;> rw [hsaid] at hkeeps
    · simpa only [hsaid] using hkeeps
    · simpa only [hsaid] using hkeeps

theorem good_regions (settings : DecorationSettings) (doc : Document) (hans : Answers highlighter good answer)
    (hgood : good st) (s : State) (rs : List Region) : good (regions settings doc highlighter s st rs).2 := by
  induction rs generalizing s st with
  | nil => exact hgood
  | cons r rs ih => exact ih (good_region settings doc hans hgood s r) _

theorem adds_markRegion (settings : DecorationSettings) (hs : UpTo doc r.start s) (hlt : r.start < r.stop)
    (hstop : r.stop ≤ doc.length) :
    Adds s (markRegion settings doc r s) (inlineMarks settings r) [] [] ∧
      (markRegion settings doc r s).marks.last ≤ r.start ∧
      LinesUpTo doc r.stop (markRegion settings doc r s) := by
  cases hkind : r.kind with
  | block =>
    obtain ⟨lines, last, hframe, hmem, hle⟩ := markLines_frame settings hs.lines hlt hstop
    simp only [markRegion, inlineMarks, hkind, hframe]
    exact ⟨adds_nothing rfl rfl rfl, hs.marks, hmem, hle⟩
  | inline =>
    have hnew : (Mark.new r.start r.stop settings.inlineClass).map (·.withAttributes settings.attributes) =
        .ok ⟨r.start, r.stop, settings.inlineClass, settings.attributes⟩ := by
      rw [Mark.new, if_pos (Nat.le_of_lt hlt)]
      rfl
    simp only [markRegion, inlineMarks, hkind, hnew]
    refine ⟨adds_mark _ hs.marks, ?_⟩
    rw [addMark_ok hs.marks]
    exact ⟨Nat.le_refl _, hs.lines.line, Nat.le_trans hs.lines.le (Nat.le_of_lt hlt)⟩

/-- Tells several things. -/
def State.tellAll (s : State) (es : List Event) : State :=
  { s with events := s.events ++ es }

theorem adds_tellAll {es : List Event} (h : ∀ e ∈ es, e.isWarning = false) : Adds s (s.tellAll es) [] [] [] where
  marks := by simp [State.tellAll]
  unhighlighted := by simp [State.tellAll]
  warnings := by
    have hnone : es.filter Event.isWarning = [] :=
      List.filter_eq_nil_iff.2 fun e he => by rw [h e he]; decide
    rw [State.tellAll, Array.toList_appendList, List.filter_append, hnone]

theorem adds_failure (r : Region) (e : SyntaxError) :
    Adds s ({ s with unhighlighted := s.unhighlighted.push r }.tell (.unhighlighted r e)) [] [r]
      [.unhighlighted r e] where
  marks := by simp [State.tell]
  unhighlighted := by simp [State.tell]
  warnings := by
    have hwarns : (Event.unhighlighted r e).isWarning = true := rfl
    simp [State.tell, List.filter_append, hwarns]

theorem region_of_ok {spans : List Span} {es : List Event} {st' : σ}
    (hslice : doc.slice r.start r.stop = .ok (r.fragment doc))
    (h : highlighter (r.fragment doc) st = ((.ok spans, es), st')) :
    region settings doc highlighter s st r =
      (spans.foldl (markSpan r.start) ((markRegion settings doc r s).tellAll es), st') := by
  simp only [region, hslice, h, State.tellAll]

theorem region_of_error {e : SyntaxError} {es : List Event} {st' : σ}
    (hslice : doc.slice r.start r.stop = .ok (r.fragment doc))
    (h : highlighter (r.fragment doc) st = ((.error e, es), st')) :
    region settings doc highlighter s st r =
      (let s := (markRegion settings doc r s).tellAll es
      { s with unhighlighted := s.unhighlighted.push r }.tell (.unhighlighted r e), st') := by
  simp only [region, hslice, h, State.tellAll]

/-- One region: its own mark and those of its tokens, or a warning that there are none. -/
theorem adds_region (settings : DecorationSettings) (hans : Answers highlighter good answer)
    (hgood : good st) (hs : UpTo doc r.start s) (hlt : r.start < r.stop) (hstop : r.stop ≤ doc.length) :
    Adds s (region settings doc highlighter s st r).1
        (inlineMarks settings r ++ tokenMarks doc answer r)
        ([r].filter fun r => (r.failure? doc answer).isSome)
        ([r].filterMap fun r => (r.failure? doc answer).map (Event.unhighlighted r)) ∧
      UpTo doc r.stop (region settings doc highlighter s st r).1 := by
  obtain ⟨hregion, hmark, hlines⟩ := adds_markRegion settings hs hlt hstop
  have hslice := slice_eq (Nat.le_of_lt hlt) hstop
  have hspans := hans.spans (r.fragment doc) st hgood
  have hquiet := hans.quiet (r.fragment doc) st hgood
  rcases hsaid : highlighter (r.fragment doc) st with ⟨⟨_ | _, es⟩, st'⟩ <;> rw [hsaid] at hspans hquiet
  case error e =>
    have htold := hregion.trans (adds_tellAll hquiet)
    have hmarks : tokenMarks doc answer r = [] := by rw [tokenMarks, ← hspans]
    have hfailure : r.failure? doc answer = some e := by rw [failure?, ← hspans]
    rw [region_of_error hslice hsaid, hmarks, List.filter_cons_of_pos (by simp [hfailure]),
      List.filterMap_cons_some (b := Event.unhighlighted r e) (by simp [hfailure])]
    refine ⟨?_, Nat.le_trans hmark (Nat.le_of_lt hlt), hlines.line, hlines.le⟩
    simpa using htold.trans (adds_failure r e)
  case ok spans =>
    have htold := hregion.trans (adds_tellAll hquiet)
    have htiles := hans.tiles _ _ hspans.symm
    rw [length_fragment hstop] at htiles
    obtain ⟨hadds, hle, hsame⟩ := adds_spans r.start (s := (markRegion settings doc r s).tellAll es) htiles hmark
    have hmarks : tokenMarks doc answer r = spanMarks r.start spans := by rw [tokenMarks, ← hspans]
    have hfailure : r.failure? doc answer = none := by rw [failure?, ← hspans]
    rw [region_of_ok hslice hsaid, hmarks, List.filter_cons_of_neg (by simp [hfailure]),
      List.filterMap_cons_none (by simp [hfailure])]
    refine ⟨by simpa using htold.trans hadds, ?_, ?_⟩
    · rw [Nat.add_sub_cancel' (Nat.le_of_lt hlt)] at hle
      exact hle
    · constructor
      · rw [hsame]; exact hlines.line
      · rw [hsame]; exact hlines.le

theorem adds_regions (settings : DecorationSettings) (hans : Answers highlighter good answer)
    {rs : List Region} (hgood : good st) (hs : UpTo doc a s) (h : Region.Ordered a doc.length rs) :
    Adds s (regions settings doc highlighter s st rs).1
        (rs.flatMap fun r => inlineMarks settings r ++ tokenMarks doc answer r)
        (rs.filter fun r => (r.failure? doc answer).isSome)
        (rs.filterMap fun r => (r.failure? doc answer).map (Event.unhighlighted r)) := by
  induction rs generalizing s st a with
  | nil => exact adds_nothing rfl rfl rfl
  | cons r rs ih =>
    obtain ⟨hle, hlt, h⟩ := h
    obtain ⟨hfirst, hupTo⟩ := adds_region settings hans hgood (hs.mono hle) hlt h.le
    have hrest := ih (good_region settings doc hans hgood s r) hupTo h
    rw [List.flatMap_cons, ← List.singleton_append (l := rs), List.filter_append, List.filterMap_append]
    exact hfirst.trans hrest

end

end Build

end Scriptlet
