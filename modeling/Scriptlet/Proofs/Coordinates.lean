import Scriptlet.Proofs.LineMarks
import Scriptlet.Proofs.LineStarts
import Scriptlet.Proofs.ScanMarkers

/-!
# Lines, offsets and line numbers agree

A document is cut into lines at its breaks and nowhere else, and what it says of one of its three measures it
says of the others (`coordinates`). The offset of a line counts the characters of those before it; since they are
not empty, these offsets increase, and the line of an offset is the last that starts up to it. Only breaks of two
characters need care: a carriage return is a break of its own just if no line feed follows, which is seen from
where the next line starts (`mem_lineStarts`).
-/

namespace Scriptlet

namespace Text
variable {ls : List (List Char)} {l : List Char} {i : Nat}

/-- The characters are one whole break in front of the given one. -/
def WholeBreak (brk : List Char) (next? : Option Char) : Prop :=
  brk = ['\n'] ∨ brk = ['\r', '\n'] ∨ brk = ['\r'] ∧ next? ≠ some '\n'

theorem Lined.endsInBreak (h : Lined ls) (hl : ls[i]? = some l) (hi : i + 1 < ls.length) : EndsInBreak l := by
  induction ls generalizing i with
  | nil => cases hl
  | cons l₀ ls ih =>
    match ls, hi with
    | l₁ :: ls, hi =>
      cases i with
      | zero =>
        cases hl
        exact h.1
      | succ i => exact ih h.2 hl (Nat.lt_of_succ_lt_succ hi)

theorem Lined.breakFree_last (h : Lined ls) (hl : ls.getLast? = some l) : BreakFree l := by
  induction ls with
  | nil => cases hl
  | cons l₀ ls ih =>
    match ls with
    | [] =>
      cases hl
      exact h
    | l₁ :: ls =>
      rw [List.getLast?_cons_cons] at hl
      exact ih h.2 hl

end Text

namespace Document
variable {doc : Document} {i : Nat} {l : List Char}

/-- Lines, offsets and line numbers of a document agree, and asking for a part that is not there fails. -/
structure Coordinates (doc : Document) : Prop where
  flatten : doc.lines.flatten = doc.chars
  pos : 0 < doc.lineCount
  /-- Every line but the last is a text without breaks and then one whole break. -/
  broken : ∀ i l, doc.lines[i]? = some l → i + 1 < doc.lineCount → ∃ body brk, l = body ++ brk ∧
    Text.BreakFree body ∧ Text.WholeBreak brk (doc.lines.drop (i + 1)).flatten.head?
  last : ∀ l, doc.lines.getLast? = some l → Text.BreakFree l
  lineCount : doc.lineCount = doc.lines.length
  line : ∀ i l, doc.line i = .ok l ↔ doc.lines[i]? = some l
  line_fails : ∀ i e, doc.line i = .error e ↔ doc.lineCount ≤ i ∧ e = .lineOutOfBounds i
  /-- A line starts behind all characters of the lines before it. -/
  lineStart : ∀ i < doc.lineCount, doc.lineStart i = .ok ((doc.lines.take i).map List.length).sum
  lineStart_fails : ∀ i e, doc.lineStart i = .error e ↔ doc.lineCount ≤ i ∧ e = .lineOutOfBounds i
  /-- An offset is in the last of the lines that start up to it. -/
  lineAt : ∀ c ≤ doc.length, ∃ i s, doc.lineAt c = .ok i ∧ doc.lineStart i = .ok s ∧ s ≤ c ∧
    ∀ j t, doc.lineStart j = .ok t → t ≤ c → j ≤ i
  lineAt_fails : ∀ c e, doc.lineAt c = .error e ↔ doc.length < c ∧ e = .invalidOffset c
  /-- A line is the text from its start to that of the next line, or to the end. -/
  slice : ∀ i l s, doc.line i = .ok l → doc.lineStart i = .ok s →
    doc.slice s ((doc.lineStart (i + 1)).toOption.getD doc.length) = .ok l
  slice_fails : ∀ a b e, doc.slice a b = .error e ↔ ¬(a ≤ b ∧ b ≤ doc.length) ∧ e = .invalidRange a b

theorem getElem?_offsetOf (hl : doc.lines[i]? = some l) (hpos : 0 < l.length) :
    doc.chars[doc.offsetOf i l.length - 1]? = l.getLast? := by
  rw [chars_split hl, offsetOf, List.getElem?_append_right (by omega), List.getElem?_append_left (by omega),
    List.getLast?_eq_getElem?]
  congr 1
  omega

theorem head?_behind (hl : doc.lines[i]? = some l) :
    (doc.lines.drop (i + 1)).flatten.head? = doc.chars[doc.offsetOf i l.length]? := by
  rw [chars_split hl, offsetOf, List.getElem?_append_right (by omega), List.getElem?_append_right (by omega),
    List.head?_eq_getElem?]
  congr 1
  omega

/-- A line that is not the last ends in one whole break. -/
theorem wholeBreak_line (hl : doc.lines[i]? = some l) (hi : i + 1 < doc.lineCount) : ∃ body brk, l = body ++ brk ∧
    Text.BreakFree body ∧ Text.WholeBreak brk (doc.lines.drop (i + 1)).flatten.head? := by
  obtain ⟨body, brk, rfl, hbody, hbrk⟩ := (Text.lined_splitLines doc.chars).endsInBreak hl hi
  refine ⟨body, brk, rfl, hbody, ?_⟩
  rcases hbrk with rfl | rfl | rfl
  · exact .inl rfl
  · refine .inr (.inr ⟨rfl, fun hnext => ?_⟩)
    -- the next line starts behind the carriage return, so this ends a line
    have hstart : doc.offsetOf (i + 1) 0 ∈ doc.lineStarts :=
      List.mem_of_getElem? (lineStart_eq_ok.1 (lineStart_eq (List.getElem?_eq_getElem hi)))
    rw [offsetOf_succ hl, mem_lineStarts] at hstart
    have hlast := getElem?_offsetOf hl (by simp)
    rw [head?_behind hl] at hnext
    rcases hstart with hzero | ⟨j, c, hc, hends, hj⟩
    · rw [offsetOf, List.length_append, List.length_singleton] at hzero
      omega
    · rw [hj] at hlast hnext
      rw [Nat.add_sub_cancel, hc, List.getLast?_concat] at hlast
      cases hlast
      rw [hnext] at hends
      cases hends
  · exact .inr (.inl rfl)

theorem line_eq_ok : doc.line i = .ok l ↔ doc.lines[i]? = some l := by
  rw [line]
  cases doc.lines[i]? <;> simp

theorem line_eq_error {e : DocumentError} :
    doc.line i = .error e ↔ doc.lineCount ≤ i ∧ e = .lineOutOfBounds i := by
  rw [line, lineCount, ← List.getElem?_eq_none_iff]
  cases doc.lines[i]? <;> simp [eq_comm]

theorem lineStart_eq_error {e : DocumentError} :
    doc.lineStart i = .error e ↔ doc.lineCount ≤ i ∧ e = .lineOutOfBounds i := by
  rw [lineStart, lineCount, ← Text.length_lineStartsFrom 0 doc.lines, ← lineStarts, ← List.getElem?_eq_none_iff]
  cases doc.lineStarts[i]? <;> simp [eq_comm]

theorem lineStart_eq_sum (hi : i < doc.lineCount) :
    doc.lineStart i = .ok ((doc.lines.take i).map List.length).sum := by
  rw [lineStart_eq (List.getElem?_eq_getElem hi), offsetOf, List.length_flatten, Nat.add_zero]

/-- The line of an offset is the last that starts up to it. -/
theorem lineAt_greatest {c : Nat} (hc : c ≤ doc.length) : ∃ i s, doc.lineAt c = .ok i ∧ doc.lineStart i = .ok s ∧
    s ≤ c ∧ ∀ j t, doc.lineStart j = .ok t → t ≤ c → j ≤ i := by
  obtain ⟨i, hi⟩ := doc.exists_lineAt hc
  have hlt := lineAt_lt hi
  have hstart : doc.lineStart i = .ok doc.lineStarts[i] := lineStart_eq_ok.2 (List.getElem?_eq_getElem hlt)
  have hmem : doc.lineStarts[i] ∈ doc.lineStarts.take (i + 1) :=
    List.mem_take_iff_getElem.2 ⟨i, by omega, rfl⟩
  refine ⟨i, _, hi, hstart, le_of_mem_take_lineAt hi hmem, fun j t ht hle => Nat.le_of_not_lt fun hij => ?_⟩
  have htake : t ∈ doc.lineStarts.take (i + 1) := by
    rw [← filter_lineStarts hi]
    exact List.mem_filter.2 ⟨List.mem_of_getElem? (lineStart_eq_ok.1 ht), by simpa using hle⟩
  obtain ⟨k, hk, hkt⟩ := List.mem_take_iff_getElem.1 htake
  have hbefore := lt_of_lineStart (lineStart_eq_ok.2 (List.getElem?_eq_getElem (by omega))) ht
    (show k < j by omega)
  omega

theorem lineAt_eq_error {c : Nat} {e : DocumentError} :
    doc.lineAt c = .error e ↔ doc.length < c ∧ e = .invalidOffset c := by
  rw [lineAt, ← Nat.not_le]
  split <;> simp [*, eq_comm]

theorem slice_line {s : Nat} (hl : doc.line i = .ok l) (hs : doc.lineStart i = .ok s) :
    doc.slice s ((doc.lineStart (i + 1)).toOption.getD doc.length) = .ok l := by
  have hline := line_eq_ok.1 hl
  obtain rfl : doc.offsetOf i 0 = s := Except.ok.inj ((lineStart_eq hline).symm.trans hs)
  have hstop : (doc.lineStart (i + 1)).toOption.getD doc.length = doc.offsetOf i l.length := by
    rcases Nat.lt_or_ge (i + 1) doc.lineCount with hlt | hge
    · rw [lineStart_eq (List.getElem?_eq_getElem hlt), ← offsetOf_succ hline]
      rfl
    · -- nothing is behind the last line
      have hchars := congrArg List.length (chars_split hline)
      rw [List.drop_eq_nil_of_le hge, List.flatten_nil, List.append_nil, List.length_append] at hchars
      rw [lineStart_eq_error.2 ⟨hge, rfl⟩, offsetOf, ← hchars]
      rfl
  rw [hstop, slice_offsetOf hline (Nat.zero_le _) (Nat.le_refl _), List.drop_zero, Nat.sub_zero, List.take_length]

theorem slice_eq_error {a b : Nat} {e : DocumentError} :
    doc.slice a b = .error e ↔ ¬(a ≤ b ∧ b ≤ doc.length) ∧ e = .invalidRange a b := by
  rw [slice]
  split <;> simp [*, eq_comm]

/-- The lines of every document, its offsets and its line numbers agree. -/
theorem coordinates (doc : Document) : doc.Coordinates where
  flatten := Text.flatten_splitLines doc.chars
  pos := List.length_pos_iff.2 (Text.splitLines_ne_nil doc.chars)
  broken _ _ := wholeBreak_line
  last _ := (Text.lined_splitLines doc.chars).breakFree_last
  lineCount := rfl
  line _ _ := line_eq_ok
  line_fails _ _ := line_eq_error
  lineStart _ := lineStart_eq_sum
  lineStart_fails _ _ := lineStart_eq_error
  lineAt _ := lineAt_greatest
  lineAt_fails _ _ := lineAt_eq_error
  slice _ _ _ := slice_line
  slice_fails _ _ _ := slice_eq_error

end Document

end Scriptlet
