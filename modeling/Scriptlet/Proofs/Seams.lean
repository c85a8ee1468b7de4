import Mathlib.Data.List.Basic
import Scriptlet.Proofs.LineMarks
import Scriptlet.Proofs.LineStarts
import Scriptlet.Proofs.Rebuild

/-!
# Texts put together

Where a text ends in a line feed and has no opener left to close, nothing of it is carried over to a text
put behind it: the decorations of both together are those of the first and, moved to the right, those of
the second (`rebuild_append`). The lines of both are the lines of each (`splitLines_seam`), the search of
a line depends on its offset by moving what it finds (`Scan.line_shift`), so the regions are those of
each (`scan_seam`); and marks, failures and line decorations of a region are told by its fragment and by
the lines that start in it.
-/

namespace Scriptlet

/-! ### Lines -/

namespace Text

/-- A line feed ends its line whatever comes behind it. -/
theorem splitLines_seam (before : List Char) : ∃ ls, ls ≠ [] ∧
    splitLines (before ++ ['\n']) = ls ++ [[]] ∧
    ∀ rest, splitLines (before ++ '\n' :: rest) = ls ++ splitLines rest := by
  fun_induction splitLines before with
  | case1 => exact ⟨[['\n']], by simp, by simp [splitLines], fun rest => by simp [splitLines]⟩
  | case2 cs ih =>
    obtain ⟨ls, -, hends, hrest⟩ := ih
    exact ⟨['\r', '\n'] :: ls, by simp, by simp [splitLines, hends], fun rest => by simp [splitLines, hrest]⟩
  | case3 c cs hpair hc ih =>
    obtain ⟨ls, -, hends, hrest⟩ := ih
    by_cases hlast : c = '\r' ∧ cs = []
    · -- a carriage return in front of the line feed is one break with it
      obtain ⟨rfl, rfl⟩ := hlast
      exact ⟨[['\r', '\n']], by simp, by simp [splitLines], fun rest => by simp [splitLines]⟩
    · have hseam : ∀ rest, ¬(c = '\r' ∧ (cs ++ '\n' :: rest).head? = some '\n') := by
        rintro rest ⟨rfl, hhead⟩
        cases cs with
        | nil => exact hlast ⟨rfl, rfl⟩
        | cons d ds =>
          cases hhead
          exact hpair ds rfl rfl
      have hc : isBreak c = true := hc
      refine ⟨[c] :: ls, by simp, ?_, fun rest => ?_⟩
      · rw [List.cons_append, splitLines_of_not_pair (hseam []), if_pos hc, hends, List.cons_append]
      · rw [List.cons_append, splitLines_of_not_pair (hseam rest), if_pos hc, hrest, List.cons_append]
  | case4 c cs hpair hc ih =>
    obtain ⟨ls, hne, hends, hrest⟩ := ih
    obtain ⟨l, ls, rfl⟩ := List.exists_cons_of_ne_nil hne
    have hno : ∀ rest, ¬(c = '\r' ∧ (cs ++ '\n' :: rest).head? = some '\n') := by
      rintro rest ⟨rfl, -⟩
      exact hc rfl
    have hc : ¬isBreak c = true := hc
    refine ⟨(c :: l) :: ls, by simp, ?_, fun rest => ?_⟩
    · rw [List.cons_append, splitLines_of_not_pair (hno []), if_neg hc, hends]
      rfl
    · rw [List.cons_append, splitLines_of_not_pair (hno rest), if_neg hc, hrest]
      rfl

theorem lineStartsFrom_shift (start n : Nat) (ls : List (List Char)) :
    lineStartsFrom (start + n) ls = (lineStartsFrom start ls).map (· + n) := by
  induction ls generalizing start with
  | nil => rfl
  | cons l ls ih => simp only [lineStartsFrom, List.map_cons, Nat.add_right_comm start n, ih]

end Text

namespace Document
variable {before : List Char}

theorem lines_seam (hbreak : before.getLast? = some '\n') : ∃ ls : List (List Char), ls.flatten = before ∧
    lines ⟨before⟩ = ls ++ [[]] ∧ ∀ text, lines ⟨before ++ text⟩ = ls ++ lines ⟨text⟩ := by
  obtain ⟨front, rfl⟩ := List.getLast?_eq_some_iff.1 hbreak
  obtain ⟨ls, -, hends, hrest⟩ := Text.splitLines_seam front
  refine ⟨ls, ?_, hends, fun text => ?_⟩
  · have hflat := Text.flatten_splitLines (front ++ ['\n'])
    simpa [hends] using hflat
  · rw [lines, List.append_assoc]
    exact hrest text

theorem lineStarts_seam (hbreak : before.getLast? = some '\n') (text : List Char) : ∃ starts : List Nat,
    (∀ t ∈ starts, t < before.length) ∧ lineStarts ⟨before⟩ = starts ++ [before.length] ∧
      lineStarts ⟨before ++ text⟩ = starts ++ (lineStarts ⟨text⟩).map (· + before.length) := by
  obtain ⟨ls, hflat, hends, hrest⟩ := lines_seam hbreak
  have hbefore : lineStarts ⟨before⟩ = Text.lineStartsFrom 0 ls ++ [before.length] := by
    rw [lineStarts, hends, Text.lineStartsFrom_append, hflat, Nat.zero_add]
    rfl
  refine ⟨Text.lineStartsFrom 0 ls, fun t ht => ?_, hbefore, ?_⟩
  · have hordered := pairwise_lineStarts ⟨before⟩
    rw [hbefore] at hordered
    exact (List.pairwise_append.1 hordered).2.2 t ht _ (List.mem_singleton_self _)
  · rw [lineStarts, hrest, Text.lineStartsFrom_append, hflat, Text.lineStartsFrom_shift]
    rfl

end Document

/-! ### Moving to the right -/

/-- The same region further right. -/
def Region.shift (n : Nat) (r : Region) : Region :=
  { r with start := r.start + n, stop := r.stop + n }

/-- The same mark further right. -/
def Mark.shift (n : Nat) (m : Mark) : Mark :=
  { m with start := m.start + n, stop := m.stop + n }

/-- The same decoration of a line that starts further right. -/
def LineMark.shift (n : Nat) (l : LineMark) : LineMark :=
  { l with lineStart := l.lineStart + n }

namespace Decorations

/-- All decorations moved to the right. -/
def shift (n : Nat) (d : Decorations) : Decorations where
  lines := d.lines.map (·.shift n)
  marks := d.marks.map (·.shift n)
  unhighlighted := d.unhighlighted.map (·.shift n)

/-- Decorations followed by others. -/
def append (d e : Decorations) : Decorations where
  lines := d.lines ++ e.lines
  marks := d.marks ++ e.marks
  unhighlighted := d.unhighlighted ++ e.unhighlighted

end Decorations

/-! ### Scanning -/

namespace Scan
variable {d : Delimiters}

/-- The same opener further right. -/
def Pending.shift (n : Nat) (p : Pending) : Pending :=
  { p with start := p.start + n }

/-- The same findings further right. -/
def Found.shift (n : Nat) (f : Found) : Found :=
  { f with regions := f.regions.map (·.shift n), pending := f.pending.map (·.shift n) }

/-- What a search of a line finds does not depend on where the line starts, but for its offsets. -/
theorem line_shift (hd : d.NeverEmpty) (base n : Nat) (c : Text.Cursor) (pending : Option Pending) :
    line d (base + n) c false (pending.map (·.shift n)) = (line d base c false pending).shift n := by
  refine line_induct hd base (P := fun c pending f =>
    line d (base + n) c false (pending.map (·.shift n)) = f.shift n) ?_ ?_ ?_ ?_ c pending
  · intro c hfind
    rw [Option.map_none, line_none hd, hfind]
    rfl
  · intro c k m f hfind _ _ ih
    rw [Option.map_none, line_none hd, hfind, ← ih, Option.map_some]
    simp only [Pending.shift, Nat.add_right_comm base n]
  · intro c p hfind
    rw [Option.map_some, line_some hd, hfind]
    rfl
  · intro c p k m f hfind _ _ ih
    rw [Option.map_some, line_some hd, hfind]
    simp only [Option.map_none] at ih
    simp only [ih, Found.cons, Found.shift, Pending.shift, Region.shift, List.map_cons,
      Nat.add_right_comm base n]

theorem lines_shift (hd : d.NeverEmpty) (base n : Nat) (pending : Option Pending) (ls : List (List Char)) :
    lines d (base + n) (pending.map (·.shift n)) ls = (lines d base pending ls).shift n := by
  induction ls generalizing base pending with
  | nil => rfl
  | cons l ls ih =>
    rw [lines_cons hd, lines_cons hd, line_shift hd]
    simp only [Found.shift, Nat.add_right_comm base n, ih, List.map_append]

theorem lines_append (hd : d.NeverEmpty) (base : Nat) (pending : Option Pending) (ls ls' : List (List Char)) :
    (lines d base pending (ls ++ ls')).regions = (lines d base pending ls).regions ++
        (lines d (base + ls.flatten.length) (lines d base pending ls).pending ls').regions ∧
      (lines d base pending (ls ++ ls')).pending =
        (lines d (base + ls.flatten.length) (lines d base pending ls).pending ls').pending := by
  induction ls generalizing base pending with
  | nil => exact ⟨rfl, rfl⟩
  | cons l ls ih =>
    obtain ⟨hregions, hpending⟩ := ih (base + l.length) (line d base (.start l) false pending).pending
    rw [List.cons_append, lines_cons hd, lines_cons hd, List.flatten_cons, List.length_append, ← Nat.add_assoc]
    simp only [hregions, hpending, List.append_assoc, and_self]

/-- An empty line has no markers in it. -/
theorem line_nil (hd : d.NeverEmpty) (base : Nat) (pending : Option Pending) :
    line d base (.start []) false pending = ⟨[], pending, false⟩ := by
  refine line_induct hd base (P := fun c pending f => c.after = [] → f = ⟨[], pending, false⟩) ?_ ?_ ?_ ?_
    (.start []) pending rfl
  · intros
    rfl
  · intro c k m f _ hm hle _ hnil
    rw [hnil, List.length_nil] at hle
    omega
  · intros
    rfl
  · intro c p k m f _ hm hle _ hnil
    rw [hnil, List.length_nil] at hle
    omega

end Scan

open Scan in
/-- The regions of a text behind another that has nothing left to close are its own, moved. -/
theorem scan_seam {d : Delimiters} (hd : d.NeverEmpty) {before text : List Char}
    (hbreak : before.getLast? = some '\n') (hclosed : (scan d ⟨before⟩).pending = none) :
    (scan d ⟨before ++ text⟩).regions =
      (scan d ⟨before⟩).regions ++ (scan d ⟨text⟩).regions.map (·.shift before.length) := by
  obtain ⟨ls, hflat, hends, hrest⟩ := Document.lines_seam hbreak
  obtain ⟨hregions, hpending⟩ := lines_append hd 0 none ls [[]]
  rw [lines_cons hd, line_nil hd] at hregions hpending
  simp only [lines, List.append_nil] at hregions hpending
  have hscan : scan d ⟨before⟩ = lines d 0 none (ls ++ [[]]) := by rw [scan, hends]
  rw [hscan, hpending] at hclosed
  have hbehind := lines_shift hd 0 before.length none (Document.lines ⟨text⟩)
  rw [hscan, hregions, scan, hrest, (lines_append hd 0 none ls _).1, hclosed, hflat]
  exact congrArg (_ ++ Found.regions ·) hbehind

/-! ### Regions -/

namespace Region
variable {before text : List Char} {r : Region} {settings : DecorationSettings} {answer : Answer} {n : Nat}

theorem fragment_front (hle : r.start ≤ r.stop) (hstop : r.stop ≤ before.length) :
    r.fragment ⟨before ++ text⟩ = r.fragment ⟨before⟩ := by
  show ((before ++ text).drop r.start).take _ = (before.drop r.start).take _
  rw [List.drop_append_of_le_length (by omega), List.take_append_of_le_length (by rw [List.length_drop]; omega)]

theorem fragment_shift : (r.shift before.length).fragment ⟨before ++ text⟩ = r.fragment ⟨text⟩ := by
  show ((before ++ text).drop (r.start + before.length)).take (r.stop + before.length - (r.start + before.length)) = _
  rw [Nat.add_comm r.start, List.drop_append, List.drop_eq_nil_of_le (by omega), List.nil_append,
    Nat.add_sub_cancel_left, Nat.add_comm r.stop, Nat.add_sub_add_left]
  rfl

theorem tokenMarks_front (hle : r.start ≤ r.stop) (hstop : r.stop ≤ before.length) :
    r.tokenMarks ⟨before ++ text⟩ answer = r.tokenMarks ⟨before⟩ answer := by
  rw [tokenMarks, tokenMarks, fragment_front hle hstop]

theorem failure?_front (hle : r.start ≤ r.stop) (hstop : r.stop ≤ before.length) :
    r.failure? ⟨before ++ text⟩ answer = r.failure? ⟨before⟩ answer := by
  rw [failure?, failure?, fragment_front hle hstop]

theorem lineMarks_front (hstop : r.stop ≤ before.length) :
    r.lineMarks settings ⟨before ++ text⟩ = r.lineMarks settings ⟨before⟩ := by
  unfold lineMarks
  cases r.kind with
  | inline => rfl
  | block =>
    have hstarts : (Document.lineStarts ⟨before ++ text⟩).filter (fun t => r.start ≤ t ∧ t < r.stop) = _ :=
      Document.filter_lineStarts_append fun t ht => Nat.lt_of_lt_of_le (of_decide_eq_true ht).2 hstop
    simp only [hstarts]

theorem spanMarks_shift (start n : Nat) (spans : List Span) :
    spanMarks (start + n) spans = (spanMarks start spans).map (·.shift n) := by
  unfold spanMarks
  rw [List.map_filterMap]
  refine List.filterMap_congr fun s _ => ?_
  cases s.cls with
  | none => rfl
  | some cls => simp [Mark.shift, Nat.add_right_comm start n]

theorem inlineMarks_shift : (r.shift n).inlineMarks settings = (r.inlineMarks settings).map (·.shift n) := by
  cases r with
  | mk start stop kind => cases kind <;> rfl

theorem tokenMarks_shift : (r.shift before.length).tokenMarks ⟨before ++ text⟩ answer =
    (r.tokenMarks ⟨text⟩ answer).map (·.shift before.length) := by
  rw [tokenMarks, tokenMarks, fragment_shift]
  cases answer (r.fragment ⟨text⟩) with
  | error e => rfl
  | ok spans => exact spanMarks_shift r.start before.length spans

theorem failure?_shift :
    (r.shift before.length).failure? ⟨before ++ text⟩ answer = r.failure? ⟨text⟩ answer := by
  rw [failure?, failure?, fragment_shift]

theorem lineMarks_shift (hbreak : before.getLast? = some '\n') :
    (r.shift before.length).lineMarks settings ⟨before ++ text⟩ =
      (r.lineMarks settings ⟨text⟩).map (·.shift before.length) := by
  obtain ⟨starts, hstarts, -, hboth⟩ := Document.lineStarts_seam hbreak text
  cases r with
  | mk start stop kind =>
    cases kind with
    | inline => rfl
    | block =>
      have hfront : (starts.filter fun t => start + before.length ≤ t ∧ t < stop + before.length) = [] := by
        refine List.filter_eq_nil_iff.2 fun t ht => ?_
        have := hstarts t ht
        simp only [decide_eq_true_eq]
        omega
      show ((Document.lineStarts ⟨before ++ text⟩).filter fun t =>
        start + before.length ≤ t ∧ t < stop + before.length).map _ = _
      rw [hboth, List.filter_append, hfront, List.nil_append, List.filter_map, List.map_map]
      simp [lineMarks, Function.comp_def, LineMark.shift]

end Region

namespace View
variable {v : View} {before text : List Char}

/-- The decorations of two texts put together at a line break, with no opener left to close in the first,
are those of the first followed by those of the second, moved behind it. -/
theorem rebuild_append (hv : v.Reachable) (hd : v.delimiters.NeverEmpty) (hbreak : before.getLast? = some '\n')
    (hclosed : (scan v.delimiters ⟨before⟩).pending = none) (text : List Char) :
    (v.rebuild ⟨before ++ text⟩).1.decorations =
      (v.rebuild ⟨before⟩).1.decorations.append
        ((v.rebuild ⟨text⟩).1.decorations.shift before.length) := by
  have hin := (ordered_scan hd ⟨before⟩).1.within
  have hle : ∀ r ∈ (scan v.delimiters ⟨before⟩).regions, r.start ≤ r.stop := fun r hr =>
    Nat.le_of_lt (hin r hr).2.1
  have hseam : (scan v.delimiters ⟨before ++ text⟩).regions = _ := scan_seam hd hbreak hclosed
  have hlines : (v.rebuild ⟨before ++ text⟩).1.decorations.lines =
      (v.rebuild ⟨before⟩).1.decorations.lines ++
        (v.rebuild ⟨text⟩).1.decorations.lines.map (·.shift before.length) := by
    rw [lines_rebuild hd, lines_rebuild hd, lines_rebuild hd, hseam, List.flatMap_append, List.flatMap_map,
      List.map_flatMap]
    congr 1
    · exact List.flatMap_congr fun r hr => Region.lineMarks_front (hin r hr).2.2
    · exact List.flatMap_congr fun r _ => Region.lineMarks_shift hbreak
  have hmarks : (v.rebuild ⟨before ++ text⟩).1.decorations.marks =
      (v.rebuild ⟨before⟩).1.decorations.marks ++
        (v.rebuild ⟨text⟩).1.decorations.marks.map (·.shift before.length) := by
    rw [marks_rebuild hv hd, marks_rebuild hv hd, marks_rebuild hv hd, hseam, List.flatMap_append, List.flatMap_map,
      List.map_flatMap]
    congr 1
    · refine List.flatMap_congr fun r hr => ?_
      rw [Region.tokenMarks_front (hle r hr) (hin r hr).2.2]
    · refine List.flatMap_congr fun r _ => ?_
      rw [Region.inlineMarks_shift, Region.tokenMarks_shift, List.map_append]
  have hwithout : (v.rebuild ⟨before ++ text⟩).1.decorations.unhighlighted =
      (v.rebuild ⟨before⟩).1.decorations.unhighlighted ++
        (v.rebuild ⟨text⟩).1.decorations.unhighlighted.map (·.shift before.length) := by
    rw [unhighlighted_rebuild hv hd, unhighlighted_rebuild hv hd, unhighlighted_rebuild hv hd, hseam,
      List.filter_append, List.filter_map]
    congr 1
    · refine List.filter_congr fun r hr => ?_
      rw [Region.failure?_front (hle r hr) (hin r hr).2.2]
    · simp only [Function.comp_def, Region.failure?_shift]
  exact congr (congr (congrArg Decorations.mk hlines) hmarks) hwithout

/-- The same view for fragments that are strings, unless there is a `b` in them. -/
def refusing : View :=
  { echoing with grammar := .echo [{ tag := .string }] (some ['b']) }

/-- An inline region that is refused, a block behind a break of two characters, and the last line feed. -/
def closedText : List Char := "a <%b%>\r\n<%c%>\n".toList

/-- A block over two lines, and an opener without a closer. -/
def openText : List Char := "<%d\n%> <%b%> <%".toList

theorem rebuild_append_refusing : refusing.Reachable ∧ refusing.delimiters.NeverEmpty ∧
    closedText.getLast? = some '\n' ∧ (scan refusing.delimiters ⟨closedText⟩).pending = none ∧
    (refusing.rebuild ⟨closedText ++ openText⟩).1.decorations.unhighlighted = [⟨2, 7, .inline⟩, ⟨22, 27, .inline⟩] ∧
    (refusing.rebuild ⟨closedText ++ openText⟩).1.decorations =
      (refusing.rebuild ⟨closedText⟩).1.decorations.append
        ((refusing.rebuild ⟨openText⟩).1.decorations.shift closedText.length) := by
  have hset : refusing.Reachable := .setUp _ (.inl rfl)
  have hbreak : closedText.getLast? = some '\n' := by decide
  have hclosed : (scan refusing.delimiters ⟨closedText⟩).pending = none := by cbv
  exact ⟨hset, Delimiters.neverEmpty_standard, hbreak, hclosed, by cbv,
    rebuild_append hset Delimiters.neverEmpty_standard hbreak hclosed openText⟩

end View

end Scriptlet
