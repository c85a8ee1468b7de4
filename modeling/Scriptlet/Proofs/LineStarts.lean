import Mathlib.Data.List.Sort
import Scriptlet.Proofs.LineNumbers

/-!
# Where lines start

Whether a line starts at an offset is told by the characters on both sides of it (`mem_lineStarts`): behind a
line feed, and behind a carriage return that no line feed follows. So a text that goes on has the line starts
that it had, up to its former end (`filter_lineStarts_append`); at the end itself a line feed may make a break
of two characters out of one.
-/

namespace Scriptlet

namespace Text

/-- A line ends behind the character, if the given one comes next. -/
def endsLine (c : Char) (next? : Option Char) : Bool :=
  isBreak c && !(c == '\r' && next? == some '\n')

theorem lineStartsFrom_cons (start : Nat) (c : Char) (cs : List Char) : ∃ starts,
    lineStartsFrom (start + 1) (splitLines cs) = (start + 1) :: starts ∧
      lineStartsFrom start (splitLines (c :: cs)) =
        start :: if endsLine c cs.head? then (start + 1) :: starts else starts := by
  obtain ⟨l, ls, hrest⟩ := List.exists_cons_of_ne_nil (splitLines_ne_nil cs)
  refine ⟨lineStartsFrom (start + 1 + l.length) ls, by rw [hrest]; rfl, ?_⟩
  by_cases hpair : c = '\r' ∧ cs.head? = some '\n'
  · obtain ⟨rfl, hhead⟩ := hpair
    obtain ⟨ds, rfl⟩ := List.head?_eq_some_iff.1 hhead
    have hline : splitLines ('\n' :: ds) = ['\n'] :: splitLines ds := by simp [splitLines]
    rw [hline] at hrest
    cases hrest
    rfl
  · have hends : endsLine c cs.head? = isBreak c := by
      have hno : (c == '\r' && cs.head? == some '\n') = false := by simpa using hpair
      rw [endsLine, hno, Bool.not_false, Bool.and_true]
    rw [splitLines_of_not_pair hpair, hends, hrest]
    cases isBreak c with
    | true => rfl
    | false =>
      show start :: lineStartsFrom (start + (l.length + 1)) ls = _
      rw [Nat.add_comm l.length 1, ← Nat.add_assoc]
      rfl

/-- Every line but the first starts behind a character that ends one. -/
theorem lineStartsFrom_splitLines (start : Nat) (text : List Char) : ∃ starts,
    lineStartsFrom start (splitLines text) = start :: starts ∧
      ∀ t, t ∈ starts ↔ ∃ i c, text[i]? = some c ∧ endsLine c text[i + 1]? = true ∧ t = start + 1 + i := by
  induction text generalizing start with
  | nil => exact ⟨[], rfl, by simp⟩
  | cons c cs ih =>
    obtain ⟨starts, hcs, hstarts⟩ := lineStartsFrom_cons start c cs
    obtain ⟨_, hcs', hmem⟩ := ih (start + 1)
    cases hcs.symm.trans hcs'
    refine ⟨_, hstarts, fun t => ?_⟩
    have hbehind : t ∈ starts ↔
        ∃ i d, (c :: cs)[i + 1]? = some d ∧ endsLine d (c :: cs)[i + 1 + 1]? = true ∧ t = start + 1 + (i + 1) := by
      rw [hmem]
      simp only [List.getElem?_cons_succ, Nat.add_assoc, Nat.add_comm 1]
    have hnext : (c :: cs)[0 + 1]? = cs.head? := by simp [List.head?_eq_getElem?]
    constructor
    · intro ht
      split at ht
      · rename_i hends
        rcases List.mem_cons.1 ht with rfl | ht
        · exact ⟨0, c, rfl, by rw [hnext, hends], rfl⟩
        · obtain ⟨i, d, hd, hdends, heq⟩ := hbehind.1 ht
          exact ⟨i + 1, d, hd, hdends, heq⟩
      · obtain ⟨i, d, hd, hdends, heq⟩ := hbehind.1 ht
        exact ⟨i + 1, d, hd, hdends, heq⟩
    · rintro ⟨i, d, hd, hdends, rfl⟩
      cases i with
      | zero =>
        cases hd
        rw [hnext] at hdends
        simp [hdends]
      | succ i =>
        have ht := hbehind.2 ⟨i, d, hd, hdends, rfl⟩
        split
        · exact List.mem_cons_of_mem _ ht
        · exact ht

end Text

namespace Document

theorem mem_lineStarts {doc : Document} {t : Nat} : t ∈ doc.lineStarts ↔
    t = 0 ∨ ∃ i c, doc.chars[i]? = some c ∧ Text.endsLine c doc.chars[i + 1]? = true ∧ t = i + 1 := by
  obtain ⟨starts, hstarts, hmem⟩ := Text.lineStartsFrom_splitLines 0 doc.chars
  rw [lineStarts, lines, hstarts, List.mem_cons, hmem]
  simp only [Nat.zero_add, Nat.add_comm 1]

/-- Before the end of a text lines start where they do if the text goes on. -/
theorem filter_lineStarts_append {before text : List Char} {p : Nat → Bool}
    (hp : ∀ t, p t = true → t < before.length) :
    (lineStarts ⟨before ++ text⟩).filter p = (lineStarts ⟨before⟩).filter p := by
  refine ((pairwise_lineStarts _).filter _).eq_of_mem_iff ((pairwise_lineStarts _).filter _) fun {t} => ?_
  simp only [List.mem_filter, mem_lineStarts]
  refine and_congr_left fun ht => or_congr_right (exists_congr fun i => exists_congr fun c => ?_)
  have hsame : ∀ j, j < before.length → (before ++ text)[j]? = before[j]? := fun j =>
    List.getElem?_append_left
  have hlt := hp t ht
  constructor
  · rintro ⟨hc, hends, rfl⟩
    rw [hsame i (by omega)] at hc
    rw [hsame (i + 1) hlt] at hends
    exact ⟨hc, hends, rfl⟩
  · rintro ⟨hc, hends, rfl⟩
    rw [← hsame i (by omega)] at hc
    rw [← hsame (i + 1) hlt] at hends
    exact ⟨hc, hends, rfl⟩

end Document

end Scriptlet
