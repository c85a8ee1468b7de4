import Scriptlet.Proofs.CodeLayout
import Scriptlet.Proofs.LineBreaks
import Scriptlet.Proofs.PatternSearch

/-!
# Matches that depend on the characters they read

A program without assertions is blind to what stands around a match. Where it matches is then the same
whatever comes before (`matchLength?_eq_start`), and cutting the text off changes nothing unless the match
goes beyond the cut (`matchLength?_append`). A pattern that reads no break stays in the line
(`staysInLine_of_sets`).
-/

namespace Scriptlet

namespace Pattern

/-- No instruction asks about the place. -/
def Blind (program : Array Instruction) : Prop :=
  ∀ (i : Nat) (a : Assertion) (next : Nat), program[i]? ≠ some (.check a next)

theorem blind_program {p : Pattern} (h : p.assertions = []) : Blind p.program := by
  intro i a next hins
  have hmem := isFrom_program p _ (Array.mem_of_getElem? hins)
  rw [h] at hmem
  exact absurd hmem List.not_mem_nil

namespace Blind
variable {program : Array Instruction} (h : Blind program)
include h

theorem follow_eq (here there : Place) (fuel : Nat) (stack : List Nat) (w : Walk) :
    follow program here fuel stack w = follow program there fuel stack w := by
  induction fuel generalizing stack w with
  | zero => rfl
  | succ fuel ih =>
    cases stack with
    | nil => rfl
    | cons i rest =>
      rw [follow, follow]
      split
      · exact ih ..
      · cases hins : program[i]? with
        | none => exact ih ..
        | some ins =>
          cases ins with
          | read s next => exact ih ..
          | check a next => exact absurd hins (h i a next)
          | jump next => exact ih ..
          | fork first second => exact ih ..
          | accept => rfl

theorem walk_eq (here there : Place) (indices : List Nat) :
    walk program here indices = walk program there indices := h.follow_eq ..

theorem reach_eq (before before' : Option Char) (indices : List Nat) (read : Nat) (best : Option Nat)
    (text : List Char) :
    reach program before indices read best text = reach program before' indices read best text := by
  cases text with
  | nil => rw [reach, reach, h.walk_eq ⟨before, none⟩ ⟨before', none⟩]
  | cons a text => simp only [reach, h.walk_eq ⟨before, some a⟩ ⟨before', some a⟩]

/-- More text behind changes nothing, or the match goes into it. -/
theorem reach_append (before : Option Char) (indices : List Nat) (read : Nat) (best : Option Nat)
    (u v : List Char) :
    reach program before indices read best (u ++ v) = reach program before indices read best u ∨
      ∃ n, read + u.length < n ∧ reach program before indices read best (u ++ v) = some n := by
  induction u generalizing before indices read best with
  | nil =>
    cases v with
    | nil => exact .inl rfl
    | cons a v =>
      simp only [List.nil_append, reach, h.walk_eq ⟨before, some a⟩ ⟨before, none⟩]
      split
      · exact .inl rfl
      · rcases reach_eq_or .. with heq | ⟨n, hn, hreach⟩
        · exact .inl heq
        · exact .inr ⟨n, hn, hreach⟩
  | cons a u ih =>
    simp only [List.cons_append, reach]
    split
    · exact .inl rfl
    · rcases ih .. with heq | ⟨n, hn, hreach⟩
      · exact .inl heq
      · exact .inr ⟨n, by rw [List.length_cons]; omega, hreach⟩

/-- What stands before the cursor does not matter. -/
theorem matchLength?_eq_start (c : Text.Cursor) :
    matchLength? program c = matchLength? program (.start c.after) := h.reach_eq ..

theorem matchLength?_append (u v : List Char) :
    matchLength? program (.start (u ++ v)) = matchLength? program (.start u) ∨
      ∃ n, u.length < n ∧ matchLength? program (.start (u ++ v)) = some n := by
  have happend := h.reach_append none [0] 0 none u v
  rwa [Nat.zero_add] at happend

/-- A match that ends before the cut is still found when the rest is cut off. -/
theorem matchLength?_of_append {u v : List Char} {n : Nat}
    (hn : matchLength? program (.start (u ++ v)) = some n) (hle : n ≤ u.length) :
    matchLength? program (.start u) = some n := by
  rcases h.matchLength?_append u v with heq | ⟨m, hm, hlong⟩
  · rwa [← heq]
  · rw [hn] at hlong
    cases hlong
    omega

/-- Cutting off text makes no matches. -/
theorem matchLength?_eq_none_of_append {u v : List Char} (hn : matchLength? program (.start (u ++ v)) = none) :
    matchLength? program (.start u) = none := by
  rcases h.matchLength?_append u v with heq | ⟨m, hm, hlong⟩
  · rwa [← heq]
  · rw [hn] at hlong
    cases hlong

end Blind

/-! ### Matches inside a line -/

/-- No match goes beyond the line it starts in. -/
def StaysInLine (p : Pattern) : Prop :=
  ∀ text l ls n, Text.splitLines text = l :: ls → matchLength? p.program (.start text) = some n → n ≤ l.length

variable {program : Array Instruction}

/-- The program reads no such character. -/
def Skips (program : Array Instruction) (c : Char) : Prop :=
  ∀ (i : Nat) (s : CharSet) (next : Nat), program[i]? = some (.read s next) → s.mem c = false

theorem reads_follow {here : Place} {fuel : Nat} {stack : List Nat} {w : Walk}
    (hw : ∀ r ∈ w.reads, ∃ i : Nat, program[i]? = some (.read r.1 r.2)) :
    ∀ r ∈ (follow program here fuel stack w).reads, ∃ i : Nat, program[i]? = some (.read r.1 r.2) := by
  induction fuel generalizing stack w with
  | zero => exact hw
  | succ fuel ih =>
    cases stack with
    | nil => exact hw
    | cons i rest =>
      rw [follow]
      split
      · exact ih hw
      · cases hins : program[i]? with
        | none => exact ih hw
        | some ins =>
          cases ins with
          | read s next =>
            refine ih fun r hr => ?_
            rcases List.mem_cons.1 hr with rfl | hr
            · exact ⟨i, hins⟩
            · exact hw r hr
          | check a next => exact ih hw
          | jump next => exact ih hw
          | fork first second => exact ih hw
          | accept => exact hw

theorem Walk.afterReading_eq_nil {w : Walk} {c : Char} (h : ∀ r ∈ w.reads, r.1.mem c = false) :
    w.afterReading c = [] := by
  have hfold : ∀ (reads : List (CharSet × Nat)), (∀ r ∈ reads, r.1.mem c = false) → ∀ indices : List Nat,
      reads.foldl (fun indices r => if r.1.mem c then r.2 :: indices else indices) indices = indices := by
    intro reads
    induction reads with
    | nil => intro _ indices; rfl
    | cons r reads ih =>
      intro hreads indices
      obtain ⟨hr, hreads⟩ := List.forall_mem_cons.1 hreads
      rw [List.foldl_cons, hr]
      exact ih hreads indices
  exact hfold w.reads h []

theorem Skips.afterReading_eq_nil {c : Char} (h : Skips program c) (here : Place) (indices : List Nat) :
    (walk program here indices).afterReading c = [] := by
  refine Walk.afterReading_eq_nil fun r hr => ?_
  obtain ⟨i, hi⟩ := reads_follow (by simp) r hr
  exact h i r.1 r.2 hi

/-- Where breaks are not read, a match is over before the next one. -/
theorem reach_le_takeWhile (h : ∀ c, Text.isBreak c = true → Skips program c) {before : Option Char}
    {indices : List Nat} {read : Nat} {best : Option Nat} {text : List Char} {n : Nat}
    (hbest : ∀ m, best = some m → m ≤ read) (hn : reach program before indices read best text = some n) :
    n ≤ read + (text.takeWhile fun c => !Text.isBreak c).length := by
  induction text generalizing before indices read best with
  | nil => simpa using reach_le hbest hn
  | cons c text ih =>
    simp only [reach] at hn
    cases hbreak : Text.isBreak c with
    | true =>
      rw [(h c hbreak).afterReading_eq_nil] at hn
      have := best_le hbest n hn
      omega
    | false =>
      rw [List.takeWhile_cons_of_pos (by rw [hbreak]; rfl), List.length_cons]
      split at hn
      · have := best_le hbest n hn
        omega
      · have := ih (fun m hm => Nat.le_succ_of_le (best_le hbest m hm)) hn
        omega

/-- A pattern that reads no break stays in its line. -/
theorem staysInLine_of_sets {p : Pattern} (h : ∀ s ∈ p.sets, s.mem '\n' = false ∧ s.mem '\r' = false) :
    p.StaysInLine := by
  intro text l ls n hlines hn
  have hskips : ∀ c, Text.isBreak c = true → Skips p.program c := by
    intro c hc i s next hins
    obtain ⟨hfeed, hreturn⟩ := h s (isFrom_program p _ (Array.mem_of_getElem? hins))
    rw [Text.isBreak, Bool.or_eq_true, beq_iff_eq, beq_iff_eq] at hc
    rcases hc with rfl | rfl
    · exact hfeed
    · exact hreturn
  have hle := reach_le_takeWhile hskips (by simp) hn
  rw [Nat.zero_add] at hle
  exact Nat.le_trans hle (Text.length_takeWhile_le hlines)

end Pattern

end Scriptlet
