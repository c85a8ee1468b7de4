import Scriptlet.Proofs.BuildSteps
import Scriptlet.Proofs.ScanMarkers
import Scriptlet.View

/-!
# The lines that are decorated

A rebuild decorates the lines that meet a block region, each once and in order (`rebuild_lines`). A
block region starts with a line (`mem_lineStarts_of_block`), so its lines are those that start in it, and
those of a later one start behind its end. That is the invariant of the builder, `LinesBefore`: up to the
end of the last region everything is done, and from there on no line has been taken in or remembered. Inline
regions, marks and failures leave lines alone (`SameLines`), whatever the highlighter says.
-/

namespace Scriptlet

namespace Document
variable {doc : Document} {a b i j first last s t offset : Nat}

theorem lineAt_lt (h : doc.lineAt offset = .ok i) : i < doc.lineStarts.length := by
  unfold lineAt at h
  split at h
  · cases h
    have hpos : 0 < (doc.lineStarts.filter (· ≤ offset)).length :=
      List.length_pos_of_mem (List.mem_filter.2 ⟨doc.zero_mem_lineStarts, by simp⟩)
    have := List.length_filter_le (· ≤ offset) doc.lineStarts
    omega
  · cases h

theorem lineAt_mono (h : doc.lineAt a = .ok first) (h' : doc.lineAt b = .ok last) (hab : a ≤ b) :
    first ≤ last := by
  have hfirst := lineAt_lt h
  have hlast := lineAt_lt h'
  have htake : doc.lineStarts[first] ∈ doc.lineStarts.take (first + 1) :=
    List.mem_take_iff_getElem.2 ⟨first, by omega, rfl⟩
  have hle := le_of_mem_take_lineAt h htake
  refine Nat.le_of_not_lt fun hlt => ?_
  -- a line not behind the second offset would come after the last of them
  have hmem : doc.lineStarts[first] ∈ doc.lineStarts.take (last + 1) := by
    rw [← filter_lineStarts h']
    exact List.mem_filter.2 ⟨List.getElem_mem _, decide_eq_true (by omega)⟩
  obtain ⟨k, hk, heq⟩ := List.mem_take_iff_getElem.1 hmem
  have := List.pairwise_iff_getElem.1 doc.pairwise_lineStarts k first (by omega) hfirst (by omega)
  omega

theorem lineStart_eq_ok : doc.lineStart i = .ok t ↔ doc.lineStarts[i]? = some t := by
  unfold lineStart
  cases doc.lineStarts[i]? <;> simp

theorem lt_of_lineStart (hs : doc.lineStart i = .ok s) (ht : doc.lineStart j = .ok t) (hij : i < j) : s < t := by
  obtain ⟨hi, rfl⟩ := List.getElem?_eq_some_iff.1 (lineStart_eq_ok.1 hs)
  obtain ⟨hj, rfl⟩ := List.getElem?_eq_some_iff.1 (lineStart_eq_ok.1 ht)
  exact List.pairwise_iff_getElem.1 doc.pairwise_lineStarts i j hi hj hij

/-- From a line on, the starts are those not before its own. -/
theorem drop_lineStarts (h : doc.lineAt a = .ok i) (ha : a ∈ doc.lineStarts) :
    doc.lineStarts.drop i = doc.lineStarts.filter (a ≤ ·) := by
  have hbefore : (doc.lineStarts.take i).filter (a ≤ ·) = [] := by
    refine List.filter_eq_nil_iff.2 fun t ht => ?_
    obtain ⟨k, hk, rfl⟩ := List.mem_take_iff_getElem.1 ht
    have hi := lineAt_lt h
    have hlt := List.pairwise_iff_getElem.1 doc.pairwise_lineStarts k i (by omega) hi (by omega)
    have hle := le_of_mem_take_lineAt h (List.mem_take_iff_getElem.2 ⟨i, by omega, rfl⟩)
    simp only [decide_eq_true_eq]
    omega
  have hfrom : (doc.lineStarts.drop i).filter (a ≤ ·) = doc.lineStarts.drop i :=
    List.filter_eq_self.2 fun t ht => decide_eq_true (le_of_mem_drop_lineAt h ha (Nat.le_refl a) ht)
  have hsplit := congrArg (List.filter (a ≤ ·)) (List.take_append_drop i doc.lineStarts)
  rwa [List.filter_append, hbefore, hfrom, List.nil_append] at hsplit

/-- The lines from that of the first character to that of the last start between the two ends, if the first
line starts there. -/
theorem lineStarts_between (hfirst : doc.lineAt a = .ok first) (hlast : doc.lineAt (b - 1) = .ok last)
    (ha : a ∈ doc.lineStarts) (hab : a < b) :
    (doc.lineStarts.drop first).take (last + 1 - first) =
      doc.lineStarts.filter fun t => a ≤ t ∧ t < b := by
  have hle := lineAt_mono hfirst hlast (by omega)
  have hbefore : (doc.lineStarts.take first).filter (· ≤ b - 1) = doc.lineStarts.take first := by
    refine List.filter_eq_self.2 fun t ht => ?_
    have := le_of_mem_take_lineAt hfirst ((List.take_subset_take_left _ (Nat.le_succ first)) ht)
    simp only [decide_eq_true_eq]
    omega
  have hlen : (doc.lineStarts.take first).length = first := by
    have := lineAt_lt hfirst
    rw [List.length_take]
    omega
  have hsplit := congrArg (List.filter (· ≤ b - 1)) (List.take_append_drop first doc.lineStarts)
  rw [List.filter_append, hbefore, drop_lineStarts hfirst ha, List.filter_filter] at hsplit
  rw [List.take_drop, Nat.add_sub_cancel' (by omega), ← filter_lineStarts hlast, ← hsplit,
    List.drop_left' hlen]
  refine List.filter_congr fun t _ => ?_
  rw [← Bool.decide_and, decide_eq_decide]
  omega

/-- The offset behind the last character of a line: the next line starts there, or the text ends. -/
def lineStop (doc : Document) (i : Nat) : Nat :=
  match doc.lineStart (i + 1) with
  | .ok t => t
  | .error _ => doc.length

end Document

namespace Region
variable {doc : Document} {r : Region} {rs : List Region} {settings : DecorationSettings}

/-- Some character of the region is among those from the one offset up to the other. -/
def Meets (r : Region) (start stop : Nat) : Prop :=
  ∃ p, (start ≤ p ∧ p < stop) ∧ r.start ≤ p ∧ p < r.stop

/-- A region that starts with a line meets the lines that start in it. -/
theorem meets_line {i t : Nat} (hstart : r.start ∈ doc.lineStarts) (hstop : r.stop ≤ doc.length)
    (ht : doc.lineStart i = .ok t) : r.Meets t (doc.lineStop i) ↔ r.start ≤ t ∧ t < r.stop := by
  unfold Document.lineStop
  constructor
  · rintro ⟨p, ⟨htp, hp⟩, hrp, hpr⟩
    refine ⟨Nat.le_of_not_lt fun hlt => ?_, by omega⟩
    -- the region would start with a later line, behind the end of this one
    obtain ⟨j, hj, heq⟩ := List.getElem_of_mem hstart
    have hr : doc.lineStart j = .ok r.start :=
      Document.lineStart_eq_ok.2 (List.getElem?_eq_some_iff.2 ⟨hj, heq⟩)
    have hij : i < j := by
      refine Nat.lt_of_not_le fun hji => ?_
      rcases Nat.eq_or_lt_of_le hji with rfl | hji
      · rw [hr] at ht
        cases ht
        omega
      · have := Document.lt_of_lineStart hr ht hji
        omega
    have hnext : doc.lineStart (i + 1) = .ok doc.lineStarts[i + 1] :=
      Document.lineStart_eq_ok.2 (List.getElem?_eq_getElem (by omega))
    rw [hnext] at hp
    have hle : doc.lineStarts[i + 1] ≤ r.start := by
      rcases Nat.eq_or_lt_of_le (show i + 1 ≤ j by omega) with rfl | hlt
      · omega
      · exact Nat.le_of_lt (Document.lt_of_lineStart hnext hr hlt)
    simp only at hp
    omega
  · rintro ⟨hrt, htr⟩
    refine ⟨t, ⟨Nat.le_refl t, ?_⟩, hrt, htr⟩
    cases hnext : doc.lineStart (i + 1) with
    | ok u => exact Document.lt_of_lineStart ht hnext (Nat.lt_succ_self i)
    | error e => exact Nat.lt_of_lt_of_le htr hstop

/-- The decorations of the lines that start in the region, if it is a block. -/
def lineMarks (settings : DecorationSettings) (doc : Document) (r : Region) : List LineMark :=
  match r.kind with
  | .block =>
    (doc.lineStarts.filter fun t => r.start ≤ t ∧ t < r.stop).map
      (⟨·, settings.blockClass, settings.attributes⟩)
  | .inline => []

theorem mem_lineMarks {l : LineMark} : l ∈ r.lineMarks settings doc ↔ ∃ t ∈ doc.lineStarts,
    r.kind = .block ∧ (r.start ≤ t ∧ t < r.stop) ∧ l = ⟨t, settings.blockClass, settings.attributes⟩ := by
  unfold lineMarks
  split
  · rename_i hkind
    simp only [List.mem_map, List.mem_filter, decide_eq_true_eq, hkind, true_and]
    constructor
    · rintro ⟨t, ⟨ht, hin⟩, rfl⟩
      exact ⟨t, ht, hin, rfl⟩
    · rintro ⟨t, ht, hin, rfl⟩
      exact ⟨t, ⟨ht, hin⟩, rfl⟩
  · rename_i hkind
    simp [hkind]

theorem Ordered.pairwise_lineMarks {a b : Nat} (h : Ordered a b rs) :
    (rs.flatMap (lineMarks settings doc)).Pairwise fun l m => l.lineStart < m.lineStart := by
  refine List.pairwise_flatMap.2 ⟨fun r _ => ?_, h.pairwise.imp fun {r s} hrs l hl m hm => ?_⟩
  · unfold lineMarks
    split
    · exact List.pairwise_map.2 (doc.pairwise_lineStarts.filter _)
    · exact .nil
  · obtain ⟨t, -, -, ht, rfl⟩ := mem_lineMarks.1 hl
    obtain ⟨u, -, -, hu, rfl⟩ := mem_lineMarks.1 hm
    show t < u
    omega

end Region

/-! ### Building -/

namespace Build
open Region
variable {s s' s'' : State} {settings : DecorationSettings} {doc : Document} {r : Region} {a b t : Nat}

/-- The lines of a region that is in the document can be found, every one of them. -/
theorem markLines_of_slice {u : List Char} (h : doc.slice r.start r.stop = .ok u) :
    ∃ (first last : Nat) (starts : List Nat),
      doc.lineAt r.start = .ok first ∧ doc.lineAt (max (r.stop - 1) r.start) = .ok last ∧
      (List.range' first (last + 1 - first)).map doc.lineStart = starts.map .ok ∧
      ∀ settings s, markLines settings doc r s = starts.foldl (markLine settings) s := by
  obtain ⟨⟨hle, hstop⟩, -⟩ := Document.slice_eq_ok.1 h
  obtain ⟨first, hfirst⟩ := doc.exists_lineAt (show r.start ≤ doc.length by omega)
  obtain ⟨last, hlast⟩ := doc.exists_lineAt (show max (r.stop - 1) r.start ≤ doc.length by omega)
  refine ⟨first, last, (doc.lineStarts.drop first).take (last + 1 - first), hfirst, hlast, ?_, fun settings s => ?_⟩
  · have hlt := Document.lineAt_lt hlast
    refine List.ext_getElem ?_ fun k hk hk' => ?_
    · simp only [List.length_map, List.length_range', List.length_take, List.length_drop]
      omega
    · simp only [List.length_map, List.length_range'] at hk
      simp only [List.getElem_map, List.getElem_range', List.getElem_take, List.getElem_drop, Nat.one_mul]
      exact Document.lineStart_eq_ok.2 (List.getElem?_eq_getElem (by omega))
  · rw [markLines, hfirst, hlast]

/-- No line at the offset or behind it has been taken in or remembered. -/
structure LinesBefore (offset : Nat) (s : State) : Prop where
  last : s.lines.last ≤ offset
  seen : ∀ t, s.lastLine = some t → t < offset

/-- The second state has the lines of the first. -/
structure SameLines (s s' : State) : Prop where
  lines : s'.lines = s.lines
  lastLine : s'.lastLine = s.lastLine

theorem LinesBefore.mono (hab : a ≤ b) (h : LinesBefore a s) : LinesBefore b s :=
  ⟨Nat.le_trans h.last hab, fun t ht => Nat.lt_of_lt_of_le (h.seen t ht) hab⟩

theorem linesBefore_zero : LinesBefore 0 {} :=
  ⟨Nat.le_refl 0, fun _ h => by cases h⟩

namespace SameLines

theorem refl (s : State) : SameLines s s := ⟨rfl, rfl⟩

theorem trans (h : SameLines s s') (h' : SameLines s' s'') : SameLines s s'' :=
  ⟨h'.lines.trans h.lines, h'.lastLine.trans h.lastLine⟩

theorem before (h : SameLines s s') (hs : LinesBefore a s) : LinesBefore a s' :=
  ⟨h.lines ▸ hs.last, h.lastLine ▸ hs.seen⟩

theorem addMark (s : State) (m : Except DecorationError Mark) : SameLines s (s.addMark m) := by
  unfold State.addMark
  split <;> exact ⟨rfl, rfl⟩

theorem markSpans (start : Nat) (spans : List Span) (s : State) :
    SameLines s (spans.foldl (markSpan start) s) := by
  induction spans generalizing s with
  | nil => exact .refl s
  | cons span spans ih =>
    refine SameLines.trans ?_ (ih _)
    unfold markSpan
    split
    · exact .refl s
    · exact addMark s _

/-- What a region adds to the lines is added when it is decorated as a whole. -/
theorem region {σ : Type} (highlighter : Highlighter σ) (st : σ) {u : List Char}
    (h : doc.slice r.start r.stop = .ok u) :
    SameLines (markRegion settings doc r s) (region settings doc highlighter s st r).1 := by
  unfold Build.region
  rw [h]
  rcases hsaid : highlighter u st with ⟨⟨_ | spans, es⟩, st'⟩
  · simp only [hsaid]
    exact ⟨rfl, rfl⟩
  · simp only [hsaid]
    have htold : SameLines (markRegion settings doc r s) ((markRegion settings doc r s).tellAll es) := ⟨rfl, rfl⟩
    exact htold.trans (markSpans r.start spans _)

end SameLines

theorem markLine_of_before (settings : DecorationSettings) (hs : LinesBefore t s) :
    (markLine settings s t).lines.items.toList =
        s.lines.items.toList ++ [⟨t, settings.blockClass, settings.attributes⟩] ∧
      LinesBefore (t + 1) (markLine settings s t) := by
  have hnew : s.lastLine ≠ some t := fun h => Nat.lt_irrefl t (hs.seen t h)
  have hadd : s.lines.add ⟨t, settings.blockClass, settings.attributes⟩ =
      .ok ⟨s.lines.items.push ⟨t, settings.blockClass, settings.attributes⟩, t⟩ := if_pos hs.last
  rw [markLine, if_neg hnew, State.addLine, hadd]
  refine ⟨by simp, Nat.le_succ t, ?_⟩
  rintro _ ⟨⟩
  exact Nat.lt_succ_self t

theorem foldl_markLine_of_before (settings : DecorationSettings) {starts : List Nat} (hab : a ≤ b)
    (hs : LinesBefore a s) (hstarts : starts.Pairwise (· < ·)) (hin : ∀ t ∈ starts, a ≤ t ∧ t < b) :
    (starts.foldl (markLine settings) s).lines.items.toList =
        s.lines.items.toList ++ starts.map (⟨·, settings.blockClass, settings.attributes⟩) ∧
      LinesBefore b (starts.foldl (markLine settings) s) := by
  induction starts generalizing s a with
  | nil => exact ⟨by simp, hs.mono hab⟩
  | cons t ts ih =>
    obtain ⟨ht, hts⟩ := List.pairwise_cons.1 hstarts
    obtain ⟨hat, htb⟩ := hin t (List.mem_cons_self ..)
    obtain ⟨hone, hbefore⟩ := markLine_of_before settings (hs.mono hat)
    obtain ⟨hrest, hdone⟩ := ih htb hbefore hts fun u hu =>
      ⟨ht u hu, (hin u (List.mem_cons_of_mem t hu)).2⟩
    refine ⟨?_, hdone⟩
    rw [List.foldl_cons, hrest, hone, List.append_assoc]
    rfl

theorem lines_markRegion (settings : DecorationSettings) (hs : LinesBefore r.start s) (hlt : r.start < r.stop)
    (hstop : r.stop ≤ doc.length) (hblock : r.kind = .block → r.start ∈ doc.lineStarts) :
    (markRegion settings doc r s).lines.items.toList = s.lines.items.toList ++ r.lineMarks settings doc ∧
      LinesBefore r.stop (markRegion settings doc r s) := by
  unfold markRegion lineMarks
  cases hkind : r.kind with
  | inline =>
    have hsame := SameLines.addMark s
      ((Mark.new r.start r.stop settings.inlineClass).map (·.withAttributes settings.attributes))
    refine ⟨?_, hsame.before (hs.mono (Nat.le_of_lt hlt))⟩
    simp only [hsame.lines, List.append_nil]
  | block =>
    obtain ⟨first, last, starts, hfirst, hlast, -, hmark⟩ :=
      markLines_of_slice (Region.slice_eq (Nat.le_of_lt hlt) hstop)
    rw [Nat.max_eq_left (by omega)] at hlast
    have hbetween := Document.lineStarts_between hfirst hlast (hblock hkind) hlt
    have hmarked : markLines settings doc r s =
        (doc.lineStarts.filter fun t => r.start ≤ t ∧ t < r.stop).foldl (markLine settings) s := by
      rw [markLines, hfirst, Nat.max_eq_left (by omega), hlast, ← hbetween]
    simp only [hmarked]
    refine foldl_markLine_of_before settings (Nat.le_of_lt hlt) hs (doc.pairwise_lineStarts.filter _) fun t ht => ?_
    simpa using (List.mem_filter.1 ht).2

/-- The lines of regions in order are those of each region, whatever the highlighter does. -/
theorem lines_regions {σ : Type} (settings : DecorationSettings) (highlighter : Highlighter σ) {rs : List Region}
    (st : σ) (hs : LinesBefore a s) (h : Ordered a doc.length rs)
    (hblock : ∀ r ∈ rs, r.kind = .block → r.start ∈ doc.lineStarts) :
    (regions settings doc highlighter s st rs).1.lines.items.toList =
      s.lines.items.toList ++ rs.flatMap (lineMarks settings doc) := by
  induction rs generalizing s st a with
  | nil => exact (List.append_nil _).symm
  | cons r rs ih =>
    obtain ⟨hle, hlt, h⟩ := h
    obtain ⟨hone, hbefore⟩ := lines_markRegion settings (hs.mono hle) hlt h.le (hblock r (List.mem_cons_self ..))
    have hsame : SameLines (markRegion settings doc r s) (region settings doc highlighter s st r).1 :=
      .region highlighter st (Region.slice_eq (Nat.le_of_lt hlt) h.le)
    have hrest := ih (region settings doc highlighter s st r).2 (hsame.before hbefore) h
      fun r' hr' => hblock r' (List.mem_cons_of_mem r hr')
    rw [hsame.lines, hone, List.append_assoc, ← List.flatMap_cons] at hrest
    exact hrest

end Build

/-! ### Rebuilds -/

theorem mem_lineStarts_of_block {d : Delimiters} (hd : d.NeverEmpty) {doc : Document} {r : Region}
    (hr : r ∈ (scan d doc).regions) (hkind : r.kind = .block) : r.start ∈ doc.lineStarts := by
  obtain ⟨ps, hps, hregions⟩ := scan_reads hd doc
  rw [hregions] at hr
  obtain ⟨p, hp, rfl⟩ := List.mem_map.1 hr
  obtain ⟨⟨_, hopen, _⟩, _⟩ := hps.paired (by simp) p hp
  have hline := (Scan.Marker.kind_eq_block hopen).1 hkind
  cases hat : doc.lineAt (p.1.first doc) with
  | error e => rw [hat] at hline; cases hline
  | ok i =>
    rw [hat] at hline
    exact List.mem_of_getElem? (Document.lineStart_eq_ok.1 hline)

namespace View
variable {v : View} {doc : Document}

/-- The decorations of lines are those that the regions of the document have, one region after the other. -/
theorem lines_rebuild (hd : v.delimiters.NeverEmpty) (doc : Document) :
    (v.rebuild doc).1.decorations.lines =
      (scan v.delimiters doc).regions.flatMap (Region.lineMarks v.settings doc) :=
  Build.lines_regions v.settings (highlighter v.grammar v.styles) _ Build.linesBefore_zero
    (ordered_scan hd doc).1 fun _ hr => mem_lineStarts_of_block hd hr

/-- A rebuild decorates exactly the lines that meet a block region, each once and in order; the lines of a
region that is in the document can all be found. -/
theorem rebuild_lines (hd : v.delimiters.NeverEmpty) (doc : Document) :
    ((v.rebuild doc).1.decorations.lines.Pairwise fun l m => l.lineStart < m.lineStart) ∧
      (∀ l, l ∈ (v.rebuild doc).1.decorations.lines ↔ ∃ i t, doc.lineStart i = .ok t ∧
        (∃ r ∈ (scan v.delimiters doc).regions, r.kind = .block ∧ r.Meets t (doc.lineStop i)) ∧
        l = ⟨t, v.settings.blockClass, v.settings.attributes⟩) ∧
      ∀ r u, doc.slice r.start r.stop = .ok u →
        ∃ (first last : Nat) (starts : List Nat),
          doc.lineAt r.start = .ok first ∧ doc.lineAt (max (r.stop - 1) r.start) = .ok last ∧
          (List.range' first (last + 1 - first)).map doc.lineStart = starts.map .ok ∧
          ∀ settings s, Build.markLines settings doc r s = starts.foldl (Build.markLine settings) s := by
  have hord := (ordered_scan hd doc).1
  rw [lines_rebuild hd doc]
  refine ⟨hord.pairwise_lineMarks, fun l => ?_, fun r u hu => Build.markLines_of_slice hu⟩
  rw [List.mem_flatMap]
  constructor
  · rintro ⟨r, hr, hl⟩
    obtain ⟨t, ht, hkind, hin, rfl⟩ := Region.mem_lineMarks.1 hl
    obtain ⟨i, hi⟩ := List.getElem?_of_mem ht
    have hstart := Document.lineStart_eq_ok.2 hi
    have hmeets := Region.meets_line (mem_lineStarts_of_block hd hr hkind) (hord.within r hr).2.2 hstart
    exact ⟨i, t, hstart, ⟨r, hr, hkind, hmeets.2 hin⟩, rfl⟩
  · rintro ⟨i, t, hstart, ⟨r, hr, hkind, hmeets⟩, rfl⟩
    have hin := (Region.meets_line (mem_lineStarts_of_block hd hr hkind) (hord.within r hr).2.2 hstart).1 hmeets
    exact ⟨r, hr, Region.mem_lineMarks.2
      ⟨t, List.mem_of_getElem? (Document.lineStart_eq_ok.1 hstart), hkind, hin, rfl⟩⟩

/-- A view with the standard delimiters in which every fragment is one untagged token. -/
def echoing : View where
  delimiters := .standard
  grammar := .echo [] none
  styles := .standard
  settings := {}
  cache := none
  state := .stale
  decorations := .empty

/-- Breaks of all three forms, a block over two lines, an inline region over two more, and a block. -/
def brokenDocument : Document := .ofString "<%a\r\nb%> <%c\n%>\r<%d%>\r"

theorem rebuild_lines_broken : echoing.delimiters.NeverEmpty ∧
    (echoing.rebuild brokenDocument).1.decorations.lines.map (·.lineStart) = [0, 5, 16] ∧
    ((echoing.rebuild brokenDocument).1.decorations.lines.Pairwise fun l m => l.lineStart < m.lineStart) ∧
    ∀ l, l ∈ (echoing.rebuild brokenDocument).1.decorations.lines ↔ ∃ i t, brokenDocument.lineStart i = .ok t ∧
      (∃ r ∈ (scan .standard brokenDocument).regions,
        r.kind = .block ∧ r.Meets t (brokenDocument.lineStop i)) ∧
      l = ⟨t, echoing.settings.blockClass, echoing.settings.attributes⟩ := by
  have hstarts : (echoing.rebuild brokenDocument).1.decorations.lines.map (·.lineStart) = [0, 5, 16] := by cbv
  obtain ⟨hordered, hexact, -⟩ := rebuild_lines (v := echoing) Delimiters.neverEmpty_standard brokenDocument
  exact ⟨Delimiters.neverEmpty_standard, hstarts, hordered, hexact⟩

end View

end Scriptlet
