import Scriptlet.Pattern.Matching

/-!
# Ways that read nothing

`Accepts program here n i`: at the place `here`, a way of `n` steps that read nothing leads from the
index `i` to accepting. `follow` marks what it passes and passes nothing twice, and still misses no such
way (`accepted_walk_iff`): what it leaves marked at its end is closed under silent steps (`Closed`), so
that a way which starts there and accepts would have been followed to its end.
-/

namespace Scriptlet.Pattern

/-- Where the instruction leads without reading, most preferred first. -/
def Instruction.silent (here : Place) : Instruction → List Nat
  | read _ _ => []
  | check a next => if a.holds here then [next] else []
  | jump next => [next]
  | fork first second => [first, second]
  | accept => []

theorem Instruction.length_silent_le (here : Place) (ins : Instruction) : (ins.silent here).length ≤ 2 := by
  cases ins with
  | check a next => by_cases h : a.holds here <;> simp [silent, h]
  | _ => simp [silent]

/-- So many steps that read nothing lead from the index to an instruction that accepts. -/
inductive Accepts (program : Array Instruction) (here : Place) : Nat → Nat → Prop
  | done {i : Nat} : program[i]? = some .accept → Accepts program here 0 i
  | step {n i j : Nat} {ins : Instruction} :
      program[i]? = some ins → j ∈ ins.silent here → Accepts program here n j → Accepts program here (n + 1) i

variable {program : Array Instruction} {here : Place} {stack rest : List Nat} {w : Walk} {i fuel : Nat}

/-- The instruction is not to be passed again. -/
def Walk.Passed (w : Walk) (i : Nat) : Prop := w.passed.getD i true = true

/-- The walk after the instruction has been passed. -/
def Walk.pass (w : Walk) (i : Nat) (reads : List (CharSet × Nat)) : Walk :=
  { w with passed := w.passed.setIfInBounds i true, reads := reads }

theorem Walk.passed_pass {reads : List (CharSet × Nat)} {j : Nat} :
    (w.pass i reads).Passed j ↔ j = i ∨ w.Passed j := by
  simp only [Passed, pass, Array.getD_eq_getD_getElem?, Array.getElem?_setIfInBounds]
  by_cases hij : i = j
  · subst hij
    by_cases hlt : i < w.passed.size <;> simp [hlt]
  · simp [hij, Ne.symm hij]

theorem Walk.passed_of_size_le (h : w.passed.size ≤ i) : w.Passed i := by
  simp [Passed, Array.getD_eq_getD_getElem?, Array.getElem?_eq_none h]

/-- What has not been passed is an instruction of the program. -/
theorem Walk.exists_instruction (hsize : w.passed.size = program.size) (h : ¬w.Passed i) :
    ∃ ins, program[i]? = some ins := by
  have hlt : i < program.size := by
    rw [← hsize]
    exact Nat.lt_of_not_le fun hle => h (passed_of_size_le hle)
  exact ⟨_, Array.getElem?_eq_getElem hlt⟩

/-! ### One turn -/

theorem follow_passed (h : w.Passed i) :
    follow program here (fuel + 1) (i :: rest) w = follow program here fuel rest w := by
  rw [Walk.Passed] at h
  rw [follow, if_pos h]

theorem follow_accept (h : ¬w.Passed i) (hins : program[i]? = some .accept) :
    (follow program here (fuel + 1) (i :: rest) w).accepted = true := by
  rw [Walk.Passed] at h
  rw [follow, if_neg h, hins]

/-- Passing an instruction puts where it leads in front of what is still to be followed. -/
theorem follow_step (here : Place) (fuel : Nat) (rest : List Nat) {ins : Instruction}
    (h : ¬w.Passed i) (hins : program[i]? = some ins) (hacc : ins ≠ .accept) :
    ∃ reads, follow program here (fuel + 1) (i :: rest) w =
      follow program here fuel (ins.silent here ++ rest) (w.pass i reads) := by
  rw [Walk.Passed] at h
  rw [follow, if_neg h]
  simp only [hins]
  cases ins with
  | read s next => exact ⟨_, rfl⟩
  | check a next =>
    have hsilent : (if a.holds here then next :: rest else rest) =
        (Instruction.check a next).silent here ++ rest := by
      by_cases hholds : a.holds here <;> simp [Instruction.silent, hholds]
    rw [← hsilent]
    exact ⟨w.reads, rfl⟩
  | jump next => exact ⟨w.reads, rfl⟩
  | fork first second => exact ⟨w.reads, rfl⟩
  | accept => exact absurd rfl hacc

/-! ### What is accepted can be reached -/

theorem accepts_of_follow (hsize : w.passed.size = program.size)
    (h : (follow program here fuel stack w).accepted = true) :
    w.accepted = true ∨ ∃ i ∈ stack, ∃ n, Accepts program here n i := by
  induction fuel generalizing stack w with
  | zero => exact .inl h
  | succ fuel ih =>
    cases stack with
    | nil => exact .inl h
    | cons i rest =>
      by_cases hpassed : w.Passed i
      · rw [follow_passed hpassed] at h
        exact (ih hsize h).imp_right fun ⟨j, hj, hways⟩ => ⟨j, List.mem_cons_of_mem _ hj, hways⟩
      · obtain ⟨ins, hins⟩ := Walk.exists_instruction hsize hpassed
        by_cases hacc : ins = .accept
        · subst hacc
          exact .inr ⟨i, List.mem_cons_self .., 0, .done hins⟩
        · obtain ⟨reads, hstep⟩ := follow_step here fuel rest hpassed hins hacc
          rw [hstep] at h
          refine (ih (by simpa [Walk.pass] using hsize) h).imp_right ?_
          rintro ⟨j, hj, n, hn⟩
          rcases List.mem_append.1 hj with hj | hj
          · exact ⟨i, List.mem_cons_self .., n + 1, .step hins hj hn⟩
          · exact ⟨j, List.mem_cons_of_mem _ hj, n, hn⟩

/-! ### What can be reached is accepted -/

/-- Where the passed instructions lead without reading has been passed too, or is still to be followed,
and none of them accepts. -/
structure Closed (program : Array Instruction) (here : Place) (stack : List Nat) (w : Walk) : Prop where
  size : w.passed.size = program.size
  quiet : ∀ i ins, w.Passed i → program[i]? = some ins → ins ≠ .accept
  next : ∀ i ins, w.Passed i → program[i]? = some ins → ∀ j ∈ ins.silent here, j ∈ stack ∨ w.Passed j

/-- How many instructions have not been passed. -/
def Walk.unpassed (w : Walk) : Nat := w.passed.count false

theorem Walk.unpassed_pass (reads : List (CharSet × Nat)) (h : ¬w.Passed i) :
    (w.pass i reads).unpassed + 1 = w.unpassed := by
  have hlt : i < w.passed.size := Nat.lt_of_not_le fun hle => h (passed_of_size_le hle)
  have hfalse : w.passed[i] = false := by
    simpa [Passed, Array.getD_eq_getD_getElem?, Array.getElem?_eq_getElem hlt] using h
  have hpos : 0 < w.passed.count false := Array.count_pos_iff.2 (hfalse ▸ Array.getElem_mem hlt)
  simp only [unpassed, pass, Array.setIfInBounds, hlt, dif_pos, Array.count_set, hfalse, beq_self_eq_true,
    if_true, beq_iff_eq, Bool.true_eq_false, if_false]
  omega

/-- A closed set from which nothing is left to be followed holds no way to accepting. -/
theorem Closed.not_accepts (h : Closed program here [] w) (hi : w.Passed i) {n : Nat} :
    ¬Accepts program here n i := by
  intro hways
  induction hways with
  | done hins => exact h.quiet _ _ hi hins rfl
  | step hins hj _ ih =>
    rcases h.next _ _ hi hins _ hj with hmem | hpassed
    · cases hmem
    · exact ih hpassed

theorem Closed.drop (h : Closed program here (i :: rest) w) (hi : w.Passed i) : Closed program here rest w where
  size := h.size
  quiet := h.quiet
  next k ins hk hins j hj := by
    rcases h.next k ins hk hins j hj with hmem | hpassed
    · rcases List.mem_cons.1 hmem with rfl | hmem
      · exact .inr hi
      · exact .inl hmem
    · exact .inr hpassed

theorem Closed.pass {ins : Instruction} {reads : List (CharSet × Nat)} (h : Closed program here (i :: rest) w)
    (hins : program[i]? = some ins) (hacc : ins ≠ .accept) :
    Closed program here (ins.silent here ++ rest) (w.pass i reads) where
  size := by simpa [Walk.pass] using h.size
  quiet k ins' hk hins' := by
    rcases Walk.passed_pass.1 hk with rfl | hk
    · cases hins.symm.trans hins'
      exact hacc
    · exact h.quiet k ins' hk hins'
  next k ins' hk hins' j hj := by
    rw [Walk.passed_pass]
    rcases Walk.passed_pass.1 hk with rfl | hk
    · cases hins.symm.trans hins'
      exact .inl (List.mem_append_left _ hj)
    · rcases h.next k ins' hk hins' j hj with hmem | hpassed
      · rcases List.mem_cons.1 hmem with rfl | hmem
        · exact .inr (.inl rfl)
        · exact .inl (List.mem_append_right _ hmem)
      · exact .inr (.inr hpassed)

/-- If nothing has been accepted, all that was to be followed has been passed, and what has been passed
is closed. -/
theorem closed_follow (hfuel : stack.length + 2 * w.unpassed ≤ fuel) (h : Closed program here stack w)
    (hnot : (follow program here fuel stack w).accepted = false) :
    Closed program here [] (follow program here fuel stack w) ∧
      ∀ i, i ∈ stack ∨ w.Passed i → (follow program here fuel stack w).Passed i := by
  induction fuel generalizing stack w with
  | zero =>
    obtain rfl : stack = [] := List.length_eq_zero_iff.1 (by omega)
    exact ⟨h, fun i hi => hi.resolve_left List.not_mem_nil⟩
  | succ fuel ih =>
    cases stack with
    | nil => exact ⟨h, fun i hi => hi.resolve_left List.not_mem_nil⟩
    | cons i rest =>
      rw [List.length_cons] at hfuel
      by_cases hpassed : w.Passed i
      · rw [follow_passed hpassed] at hnot ⊢
        obtain ⟨hclosed, hall⟩ := ih (by omega) (h.drop hpassed) hnot
        refine ⟨hclosed, fun j hj => hall j ?_⟩
        rcases hj with hj | hj
        · rcases List.mem_cons.1 hj with rfl | hj
          · exact .inr hpassed
          · exact .inl hj
        · exact .inr hj
      · obtain ⟨ins, hins⟩ := Walk.exists_instruction h.size hpassed
        by_cases hacc : ins = .accept
        · subst hacc
          rw [follow_accept hpassed hins] at hnot
          cases hnot
        · obtain ⟨reads, hstep⟩ := follow_step here fuel rest hpassed hins hacc
          have hcount := Walk.unpassed_pass reads hpassed
          have hlen := Instruction.length_silent_le here ins
          rw [hstep] at hnot ⊢
          obtain ⟨hclosed, hall⟩ := ih (by rw [List.length_append]; omega) (h.pass hins hacc) hnot
          refine ⟨hclosed, fun j hj => hall j ?_⟩
          rw [Walk.passed_pass]
          rcases hj with hj | hj
          · rcases List.mem_cons.1 hj with rfl | hj
            · exact .inr (.inl rfl)
            · exact .inl (List.mem_append_right _ hj)
          · exact .inr (.inr hj)

/-- A walk accepts just when a way without reading does. -/
theorem accepted_walk_iff (program : Array Instruction) (here : Place) (indices : List Nat) :
    (walk program here indices).accepted = true ↔ ∃ i ∈ indices, ∃ n, Accepts program here n i := by
  have hsize : (Array.replicate program.size false).size = program.size := Array.size_replicate
  constructor
  · intro h
    rcases accepts_of_follow hsize h with hfalse | hways
    · cases hfalse
    · exact hways
  · rintro ⟨i, hi, n, hn⟩
    -- nothing has been passed at the beginning, so that there is nothing to be closed
    have hnone : ∀ i, (⟨Array.replicate program.size false, [], false⟩ : Walk).Passed i →
        program.size ≤ i := by
      intro i hpassed
      refine Nat.le_of_not_lt fun hlt => ?_
      simp [Walk.Passed, hlt] at hpassed
    have hstart : Closed program here indices ⟨Array.replicate program.size false, [], false⟩ := by
      refine ⟨hsize, fun i ins hpassed hins => ?_, fun i ins hpassed hins => ?_⟩
      · rw [Array.getElem?_eq_none (hnone i hpassed)] at hins
        cases hins
      · rw [Array.getElem?_eq_none (hnone i hpassed)] at hins
        cases hins
    cases hacc : (walk program here indices).accepted with
    | true => rfl
    | false =>
      have hfuel : indices.length + 2 * (⟨Array.replicate program.size false, [], false⟩ : Walk).unpassed ≤
          indices.length + 2 * program.size := by
        simp [Walk.unpassed]
      obtain ⟨hclosed, hall⟩ := closed_follow hfuel hstart hacc
      exact absurd hn (hclosed.not_accepts (hall i (.inl hi)))

end Scriptlet.Pattern
