import Scriptlet.Proofs.ByteOffsets
import Scriptlet.Proofs.ScanSteps

/-!
# Searching for a pattern

A search finds the leftmost place at which the pattern matches, with the match preferred there
(`find?_eq_some_iff`), and finds nothing just where it matches at no place (`find?_eq_none_iff`). In a
line, byte offsets between two characters are places, and the range that is found is that of the
characters (`findInLine_byteOffset`).
-/

namespace Scriptlet

namespace Text.Cursor

theorem advance_zero (c : Cursor) : c.advance 0 = c := by
  cases c
  rfl

theorem advance_advance (m n : Nat) (c : Cursor) : (c.advance m).advance n = c.advance (m + n) := by
  fun_induction advance m c with
  | case1 c => rw [Nat.zero_add]
  | case2 m before =>
    rw [show m + 1 + n = (m + n) + 1 by omega]
    cases n <;> rfl
  | case3 m before a after ih =>
    rw [ih, show m + 1 + n = (m + n) + 1 by omega]
    rfl

theorem column_start_advance {n : Nat} {l : List Char} (h : n ≤ l.length) : ((start l).advance n).column = n := by
  rw [column_advance_of_le (by simpa [start] using h), column_start, Nat.zero_add]

theorem after_start_advance (n : Nat) (l : List Char) : ((start l).advance n).after = l.drop n := by
  rw [advance_after, start]

end Text.Cursor

namespace Pattern
variable {program : Array Instruction} {p : Pattern} {c : Text.Cursor} {k n : Nat}

/-! ### Places -/

/-- What a search that has come to its end has seen of the places from the cursor on. -/
def Sees (program : Array Instruction) (c : Text.Cursor) (skipped : Nat) : Option (Nat × Nat) → Prop
  | none => ∀ i ≤ c.after.length, matchLength? program (c.advance i) = none
  | some (found, n) => ∃ k ≤ c.after.length, found = skipped + k ∧
      matchLength? program (c.advance k) = some n ∧ ∀ i < k, matchLength? program (c.advance i) = none

theorem sees_here {skipped : Nat} (h : matchLength? program c = some n) :
    Sees program c skipped (some (skipped, n)) :=
  ⟨0, Nat.zero_le _, rfl, by rw [Text.Cursor.advance_zero, h], fun i hi => absurd hi (Nat.not_lt_zero i)⟩

/-- Where the pattern does not match at the cursor, what is seen further right is all there is. -/
theorem Sees.cons {before text : List Char} {a : Char} {skipped : Nat} {found : Option (Nat × Nat)}
    (hmiss : matchLength? program ⟨before, a :: text⟩ = none)
    (h : Sees program ⟨a :: before, text⟩ (skipped + 1) found) :
    Sees program ⟨before, a :: text⟩ skipped found := by
  match found, h with
  | none, h =>
    rintro (_ | i) hi
    · rw [Text.Cursor.advance_zero, hmiss]
    · exact h i (Nat.le_of_succ_le_succ hi)
  | some (found, n), ⟨k, hk, hfound, hmatch, hleast⟩ =>
    refine ⟨k + 1, Nat.succ_le_succ hk, by omega, hmatch, ?_⟩
    rintro (_ | i) hi
    · rw [Text.Cursor.advance_zero, hmiss]
    · exact hleast i (Nat.lt_of_succ_lt_succ hi)

theorem sees_findFrom (program : Array Instruction) (before : List Char) (skipped : Nat) (text : List Char) :
    Sees program ⟨before, text⟩ skipped (findFrom program before skipped text) := by
  induction text generalizing before skipped with
  | nil =>
    rw [findFrom]
    cases hmatch : matchLength? program ⟨before, []⟩ with
    | some n => exact sees_here hmatch
    | none =>
      intro i hi
      rw [Nat.le_zero.1 hi, Text.Cursor.advance_zero, hmatch]
  | cons a text ih =>
    rw [findFrom]
    cases hmatch : matchLength? program ⟨before, a :: text⟩ with
    | some n => exact sees_here hmatch
    | none => exact (ih (a :: before) (skipped + 1)).cons hmatch

theorem sees_find? (p : Pattern) (c : Text.Cursor) : Sees p.program c 0 (p.find? c) :=
  sees_findFrom p.program c.before 0 c.after

theorem find?_eq_none_iff :
    p.find? c = none ↔ ∀ i ≤ c.after.length, matchLength? p.program (c.advance i) = none := by
  have hsees := sees_find? p c
  cases hfind : p.find? c with
  | none =>
    rw [hfind] at hsees
    exact iff_of_true rfl hsees
  | some found =>
    rw [hfind] at hsees
    obtain ⟨k, hk, -, hmatch, -⟩ := hsees
    refine iff_of_false (by simp) fun hnone => ?_
    rw [hnone k hk] at hmatch
    cases hmatch

theorem find?_eq_some_iff :
    p.find? c = some (k, n) ↔ k ≤ c.after.length ∧ matchLength? p.program (c.advance k) = some n ∧
      ∀ i < k, matchLength? p.program (c.advance i) = none := by
  have hsees := sees_find? p c
  constructor
  · intro hfind
    rw [hfind] at hsees
    obtain ⟨j, hj, hjk, hmatch, hleast⟩ := hsees
    rw [Nat.zero_add] at hjk
    subst hjk
    exact ⟨hj, hmatch, hleast⟩
  · rintro ⟨hk, hmatch, hleast⟩
    cases hfind : p.find? c with
    | none =>
      rw [find?_eq_none_iff.1 hfind k hk] at hmatch
      cases hmatch
    | some found =>
      rw [hfind] at hsees
      obtain ⟨j, -, hjk, hmatch', hleast'⟩ := hsees
      -- two leftmost places are one
      have hsame : j = k := by
        rcases Nat.lt_trichotomy j k with hlt | heq | hgt
        · rw [hleast j hlt] at hmatch'
          cases hmatch'
        · exact heq
        · rw [hleast' k hgt] at hmatch
          cases hmatch
      subst hsame
      rw [hmatch] at hmatch'
      cases hmatch'
      rw [← Prod.eta found, hjk, Nat.zero_add]

/-! ### Lengths -/

/-- Feeding a text keeps the match that has been found or finds another one behind the characters read. -/
theorem reach_eq_or (program : Array Instruction) (before : Option Char) (indices : List Nat) (read : Nat)
    (best : Option Nat) (text : List Char) : reach program before indices read best text = best ∨
      ∃ n, read ≤ n ∧ reach program before indices read best text = some n := by
  have hbest : ∀ (accepted : Bool) (read : Nat) (best : Option Nat),
      (if accepted then some read else best) = best ∨
        ∃ n, read ≤ n ∧ (if accepted then some read else best) = some n := by
    intro accepted read best
    cases accepted
    · exact .inl rfl
    · exact .inr ⟨read, Nat.le_refl _, rfl⟩
  induction text generalizing before indices read best with
  | nil => exact hbest ..
  | cons a text ih =>
    simp only [reach]
    split
    · exact hbest ..
    · rename_i i rest _
      rcases ih (some a) (i :: rest) (read + 1)
        (if (walk program ⟨before, some a⟩ indices).accepted then some read else best) with h | ⟨n, hn, h⟩
      · rw [h]
        exact hbest ..
      · exact .inr ⟨n, by omega, h⟩

/-- An empty match needs no reading. -/
theorem accepted_of_matchLength?_zero (h : matchLength? program c = some 0) :
    (walk program ⟨c.before.head?, c.after.head?⟩ [0]).accepted = true := by
  obtain ⟨before, after⟩ := c
  cases after with
  | nil =>
    simp only [matchLength?, reach] at h
    split at h
    · assumption
    · cases h
  | cons a after =>
    simp only [matchLength?, reach] at h
    -- what has not been accepted here is found by reading, and then it is not empty
    split at h
    · split at h
      · assumption
      · cases h
    · rcases reach_eq_or _ _ _ _ _ _ with hbest | ⟨n, hn, hmore⟩
      · rw [hbest] at h
        split at h
        · assumption
        · cases h
      · rw [hmore] at h
        cases h
        omega

end Pattern

/-! ### Bytes -/

/-- A search from a byte offset between two characters reports the bytes of what is found there. -/
theorem Delimiters.findInLine_byteOffset (p : Pattern) {l : List Char} {i : Nat} (hi : i ≤ l.length) :
    findInLine p l (Text.byteOffset l i) = .ok ((p.find? ((Text.Cursor.start l).advance i)).map
      fun m => (Text.byteOffset l (i + m.1), Text.byteOffset l (i + m.1 + m.2))) := by
  have hle : Text.byteOffset l i ≤ Text.byteLength l := by
    rw [← Text.byteOffset_length]
    exact Text.byteOffset_mono l hi
  simp only [findInLine, if_pos hle, Text.charsStartingBefore_byteOffset hi, Text.Cursor.column_start_advance hi]
  rfl

end Scriptlet
