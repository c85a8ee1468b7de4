import Scriptlet.Document
import Scriptlet.Proofs.LineBreaks

/-!
# Line numbers

The starts of the lines of a document increase strictly (`pairwise_lineStarts`), as only the last line
can be empty. So those not behind an offset are the first few of them, and the line that holds the
offset is the last of these: the starts from it on are not before any start up to the offset
(`le_of_mem_drop_lineAt`), and the starts up to it are not behind the offset (`le_of_mem_take_lineAt`).

Counting from the other side, `offsetOf doc n i` is the offset of the column `i` of the line `n`, and these
are the line and the start that the document gives for it (`lineAt_offsetOf`, `lineStart_eq`).
-/

namespace Scriptlet

namespace Text

theorem le_of_mem_lineStartsFrom {start s : Nat} {ls : List (List Char)} (h : s ∈ lineStartsFrom start ls) :
    start ≤ s := by
  induction ls generalizing start with
  | nil => cases h
  | cons l ls ih =>
    rcases List.mem_cons.1 h with rfl | h
    · exact Nat.le_refl _
    · have := ih h
      omega

theorem le_of_mem_lineStartsFrom_end {start s : Nat} {ls : List (List Char)} (h : s ∈ lineStartsFrom start ls) :
    s ≤ start + ls.flatten.length := by
  induction ls generalizing start with
  | nil => cases h
  | cons l ls ih =>
    rw [List.flatten_cons, List.length_append]
    rcases List.mem_cons.1 h with rfl | h
    · exact Nat.le_add_right _ _
    · have := ih h
      omega

theorem lineStartsFrom_append (start : Nat) (ls ls' : List (List Char)) :
    lineStartsFrom start (ls ++ ls') =
      lineStartsFrom start ls ++ lineStartsFrom (start + ls.flatten.length) ls' := by
  induction ls generalizing start with
  | nil => rfl
  | cons l ls ih =>
    rw [List.cons_append, lineStartsFrom, ih, List.flatten_cons, List.length_append, ← Nat.add_assoc]
    rfl

theorem pairwise_lineStartsFrom {ls : List (List Char)} (h : Lined ls) (start : Nat) :
    (lineStartsFrom start ls).Pairwise (· < ·) := by
  induction ls generalizing start with
  | nil => exact h.elim
  | cons l ls ih =>
    cases ls with
    | nil => exact List.pairwise_singleton _ _
    | cons l' ls =>
      have hpos := List.length_pos_iff.2 h.1.ne_nil
      refine .cons (fun s hs => ?_) (ih h.2 _)
      have := le_of_mem_lineStartsFrom hs
      omega

/-- In a list that increases, the members up to a bound are the first few. -/
theorem filter_le_eq_take {ns : List Nat} (h : ns.Pairwise (· < ·)) (bound : Nat) :
    ns.filter (· ≤ bound) = ns.take (ns.filter (· ≤ bound)).length := by
  induction ns with
  | nil => rfl
  | cons n ns ih =>
    obtain ⟨hn, hns⟩ := List.pairwise_cons.1 h
    by_cases hle : n ≤ bound
    · rw [List.filter_cons_of_pos (by simpa using hle), List.length_cons, List.take_succ_cons, ← ih hns]
    · have hnone : ns.filter (· ≤ bound) = [] := by
        refine List.filter_eq_nil_iff.2 fun m hm => ?_
        have := hn m hm
        simp only [decide_eq_true_eq]; omega
      rw [List.filter_cons_of_neg (by simpa using hle), hnone]
      rfl

end Text

namespace Document
variable {doc : Document} {offset i s t : Nat}

theorem pairwise_lineStarts (doc : Document) : doc.lineStarts.Pairwise (· < ·) :=
  Text.pairwise_lineStartsFrom (Text.lined_splitLines doc.chars) 0

theorem zero_mem_lineStarts (doc : Document) : 0 ∈ doc.lineStarts := by
  have hlined : Text.Lined doc.lines := Text.lined_splitLines doc.chars
  rw [lineStarts]
  cases hlines : doc.lines with
  | nil => rw [hlines] at hlined; exact hlined.elim
  | cons l ls => exact List.mem_cons_self ..

theorem exists_lineAt (doc : Document) (h : offset ≤ doc.length) : ∃ i, doc.lineAt offset = .ok i :=
  ⟨_, if_pos h⟩

/-- The number of the line tells how many lines start up to the offset. -/
theorem filter_lineStarts (h : doc.lineAt offset = .ok i) :
    doc.lineStarts.filter (· ≤ offset) = doc.lineStarts.take (i + 1) := by
  rw [lineAt] at h
  split at h
  · cases h
    have hpos : 0 < (doc.lineStarts.filter (· ≤ offset)).length :=
      List.length_pos_of_mem (List.mem_filter.2 ⟨doc.zero_mem_lineStarts, by simp⟩)
    rw [Nat.sub_add_cancel hpos]
    exact Text.filter_le_eq_take doc.pairwise_lineStarts offset
  · cases h

theorem le_of_mem_take_lineAt (h : doc.lineAt offset = .ok i) (hs : s ∈ doc.lineStarts.take (i + 1)) :
    s ≤ offset := by
  rw [← filter_lineStarts h] at hs
  simpa using (List.mem_filter.1 hs).2

theorem le_of_mem_drop_lineAt (h : doc.lineAt offset = .ok i) (hs : s ∈ doc.lineStarts) (hle : s ≤ offset)
    (ht : t ∈ doc.lineStarts.drop i) : s ≤ t := by
  have hmem : s ∈ doc.lineStarts.take (i + 1) := by
    rw [← filter_lineStarts h]
    exact List.mem_filter.2 ⟨hs, by simpa using hle⟩
  obtain ⟨j, hj, rfl⟩ := List.mem_take_iff_getElem.1 hmem
  obtain ⟨k, hk, rfl⟩ := List.mem_drop_iff_getElem.1 ht
  rcases Nat.lt_or_ge j (k + i) with hlt | hge
  · exact Nat.le_of_lt (List.pairwise_iff_getElem.1 doc.pairwise_lineStarts _ _ _ _ (by omega))
  · have : j = i + k := by omega
    subst this
    exact Nat.le_refl _

/-! ### Columns -/

/-- The offset of a column of a line. -/
def offsetOf (doc : Document) (n i : Nat) : Nat :=
  (doc.lines.take n).flatten.length + i

theorem lines_split {n : Nat} {l : List Char} (h : doc.lines[n]? = some l) :
    doc.lines = doc.lines.take n ++ l :: doc.lines.drop (n + 1) := by
  obtain ⟨hn, hget⟩ := List.getElem?_eq_some_iff.1 h
  rw [← hget, ← List.drop_eq_getElem_cons hn, List.take_append_drop]

theorem chars_split {n : Nat} {l : List Char} (h : doc.lines[n]? = some l) :
    doc.chars = (doc.lines.take n).flatten ++ (l ++ (doc.lines.drop (n + 1)).flatten) := by
  have hlines := congrArg List.flatten (lines_split h)
  rwa [List.flatten_append, List.flatten_cons, lines, Text.flatten_splitLines] at hlines

theorem offsetOf_succ {n : Nat} {l : List Char} (h : doc.lines[n]? = some l) :
    doc.offsetOf (n + 1) 0 = doc.offsetOf n l.length := by
  rw [offsetOf, offsetOf, List.take_add_one, h, List.flatten_append, List.length_append]
  simp

theorem offsetOf_le_length {n : Nat} {l : List Char} (h : doc.lines[n]? = some l) (hi : i ≤ l.length) :
    doc.offsetOf n i ≤ doc.length := by
  have hchars := congrArg List.length (chars_split h)
  rw [List.length_append, List.length_append] at hchars
  rw [offsetOf, length]
  omega

theorem offsetOf_mono {m n : Nat} (h : m ≤ n) : doc.offsetOf m 0 ≤ doc.offsetOf n 0 := by
  obtain ⟨k, rfl⟩ := Nat.exists_eq_add_of_le h
  rw [offsetOf, offsetOf, List.take_add, List.flatten_append, List.length_append]
  omega

theorem offsetOf_le_of_lt {m n : Nat} {l : List Char} (h : doc.lines[m]? = some l) (hi : i ≤ l.length)
    (hmn : m < n) (j : Nat) : doc.offsetOf m i ≤ doc.offsetOf n j :=
  calc doc.offsetOf m i ≤ doc.offsetOf m l.length := Nat.add_le_add_left hi _
    _ = doc.offsetOf (m + 1) 0 := (offsetOf_succ h).symm
    _ ≤ doc.offsetOf n 0 := offsetOf_mono hmn
    _ ≤ doc.offsetOf n j := Nat.add_le_add_left (Nat.zero_le j) _

/-- The text behind a column starts with the rest of the line. -/
theorem drop_offsetOf {n : Nat} {l : List Char} (h : doc.lines[n]? = some l) (hi : i ≤ l.length) :
    doc.chars.drop (doc.offsetOf n i) = l.drop i ++ (doc.lines.drop (n + 1)).flatten := by
  rw [chars_split h, offsetOf, List.drop_append, Nat.add_sub_cancel_left, List.drop_eq_nil_of_le (by omega),
    List.nil_append, List.drop_append_of_le_length hi]

theorem lineStart_eq {n : Nat} {l : List Char} (h : doc.lines[n]? = some l) :
    doc.lineStart n = .ok (doc.offsetOf n 0) := by
  have hget : doc.lineStarts[n]? = some (doc.offsetOf n 0) := by
    have hn := (List.getElem?_eq_some_iff.1 h).1
    have hle : (Text.lineStartsFrom 0 (doc.lines.take n)).length ≤ n := by
      rw [Text.length_lineStartsFrom]
      exact List.length_take_le ..
    rw [lineStarts, lines_split h, Text.lineStartsFrom_append, List.getElem?_append_right hle]
    simp [Text.lineStartsFrom, offsetOf, Nat.le_of_lt hn]
  rw [lineStart, hget]

/-- A column that is in the line belongs to it. -/
theorem lineAt_offsetOf {n : Nat} {l : List Char} (h : doc.lines[n]? = some l) (hi : i < l.length) :
    doc.lineAt (doc.offsetOf n i) = .ok n := by
  have hn := (List.getElem?_eq_some_iff.1 h).1
  have hbefore : (Text.lineStartsFrom 0 (doc.lines.take n)).filter (· ≤ doc.offsetOf n i) =
      Text.lineStartsFrom 0 (doc.lines.take n) := by
    refine List.filter_eq_self.2 fun s hs => ?_
    have := Text.le_of_mem_lineStartsFrom_end hs
    refine decide_eq_true ?_
    rw [offsetOf]
    omega
  have hbehind : (Text.lineStartsFrom (doc.offsetOf n l.length) (doc.lines.drop (n + 1))).filter
      (· ≤ doc.offsetOf n i) = [] := by
    refine List.filter_eq_nil_iff.2 fun s hs hle => ?_
    have hge := Text.le_of_mem_lineStartsFrom hs
    have hle : s ≤ doc.offsetOf n i := of_decide_eq_true hle
    rw [offsetOf] at hge hle
    omega
  have hstarts : doc.lineStarts = Text.lineStartsFrom 0 (doc.lines.take n) ++
      doc.offsetOf n 0 :: Text.lineStartsFrom (doc.offsetOf n l.length) (doc.lines.drop (n + 1)) := by
    rw [lineStarts, lines_split h, Text.lineStartsFrom_append, Text.lineStartsFrom, ← lines_split h, Nat.zero_add]
    rfl
  rw [lineAt, if_pos (offsetOf_le_length h (Nat.le_of_lt hi)), hstarts, List.filter_append, hbefore,
    List.filter_cons_of_pos (by simp [offsetOf]), hbehind, List.length_append, Text.length_lineStartsFrom,
    List.length_take, Nat.min_eq_left (Nat.le_of_lt hn)]
  rfl

/-- Every character stands in a column of a line. -/
theorem exists_offsetOf (h : offset < doc.length) :
    ∃ n l i, doc.lines[n]? = some l ∧ i < l.length ∧ offset = doc.offsetOf n i := by
  have hlines : ∀ (ls : List (List Char)) (offset : Nat), offset < ls.flatten.length →
      ∃ n l i, ls[n]? = some l ∧ i < l.length ∧ offset = (ls.take n).flatten.length + i := by
    intro ls
    induction ls with
    | nil => intro offset h; cases h
    | cons l ls ih =>
      intro offset h
      rw [List.flatten_cons, List.length_append] at h
      rcases Nat.lt_or_ge offset l.length with hlt | hge
      · exact ⟨0, l, offset, rfl, hlt, by simp⟩
      · obtain ⟨n, l', i, hl', hi, heq⟩ := ih (offset - l.length) (by omega)
        refine ⟨n + 1, l', i, hl', hi, ?_⟩
        rw [List.take_succ_cons, List.flatten_cons, List.length_append]
        omega
  refine hlines doc.lines offset ?_
  rwa [lines, Text.flatten_splitLines]

/-- The text behind a column that is in the line has the rest of the line as its first line. -/
theorem splitLines_offsetOf {n : Nat} {l : List Char} (h : doc.lines[n]? = some l) (hi : i < l.length) :
    Text.splitLines (doc.chars.drop (doc.offsetOf n i)) = l.drop i :: doc.lines.drop (n + 1) := by
  have hstart : ∀ n l, doc.lines[n]? = some l →
      Text.splitLines (doc.chars.drop (doc.offsetOf n 0)) = l :: doc.lines.drop (n + 1) := by
    intro n
    induction n with
    | zero =>
      intro l h
      exact lines_split h
    | succ n ih =>
      intro l h
      have hn : n < doc.lines.length := by
        have := (List.getElem?_eq_some_iff.1 h).1
        omega
      have hprev := List.getElem?_eq_getElem hn
      have hdrop : doc.lines.drop (n + 1) = l :: doc.lines.drop (n + 1 + 1) := by
        obtain ⟨hlt, hget⟩ := List.getElem?_eq_some_iff.1 h
        rw [List.drop_eq_getElem_cons hlt, hget]
      have hbehind := Text.splitLines_behind (ih _ hprev) (by rw [hdrop]; exact List.cons_ne_nil _ _)
      rw [List.drop_drop] at hbehind
      rw [offsetOf_succ hprev, ← hdrop, ← hbehind, offsetOf, offsetOf, Nat.add_zero]
  have := Text.splitLines_drop (hstart n l h) hi
  rwa [List.drop_drop, offsetOf, Nat.add_zero] at this

end Document

end Scriptlet
