import Scriptlet.Pattern.Program

/-!
# Where the code of a pattern stands

Adding code leaves what is there as it is (`Begins`), so the code of a part stands in the program of the
whole where it was added. What the instructions of the whole ask for comes from the parts: each reads a
set and checks an assertion of the pattern, or does neither (`isFrom_program`).
-/

namespace Scriptlet.Pattern

/-! ### Adding code -/

/-- The second program has the first one at its beginning. -/
def Begins (a b : Array Instruction) : Prop := ∃ c, b = a ++ c

namespace Begins
variable {a b c : Array Instruction}

theorem refl (a : Array Instruction) : Begins a a := ⟨#[], by simp⟩

theorem trans (h : Begins a b) (h' : Begins b c) : Begins a c := by
  obtain ⟨u, rfl⟩ := h
  obtain ⟨v, rfl⟩ := h'
  exact ⟨u ++ v, Array.append_assoc⟩

theorem push (a : Array Instruction) (ins : Instruction) : Begins a (a.push ins) := ⟨#[ins], rfl⟩

theorem of_push {ins : Instruction} (h : Begins (a.push ins) b) : Begins a b := (push a ins).trans h

/-- What was pushed stands behind what was there. -/
theorem getElem?_push {ins : Instruction} (h : Begins (a.push ins) b) : b[a.size]? = some ins := by
  obtain ⟨c, rfl⟩ := h
  rw [Array.getElem?_append_left (by simp), Array.getElem?_push_size]

theorem addLiteral (next : Nat) (cs : List Char) (a : Array Instruction) :
    Begins a (addLiteral next cs a) := by
  fun_induction Pattern.addLiteral next cs a with
  | case1 a => exact push ..
  | case2 c a => exact push ..
  | case3 c d cs a ih => exact ih.of_push

section
variable {add : Nat → Array Instruction → Array Instruction} (hadd : ∀ next a, Begins a (add next a))
include hadd

theorem addCopies (size next n : Nat) (a : Array Instruction) : Begins a (addCopies add size next n a) := by
  induction n generalizing a with
  | zero => exact refl a
  | succ n ih => exact (hadd ..).trans (ih _)

theorem addOptions (greedy : Bool) (size next n : Nat) (a : Array Instruction) :
    Begins a (addOptions greedy add size next n a) := by
  induction n generalizing a with
  | zero => exact refl a
  | succ n ih => exact ((push ..).trans (hadd ..)).trans (ih _)

end

theorem addCode (p : Pattern) (next : Nat) (a : Array Instruction) : Begins a (p.addCode next a) := by
  induction p generalizing next a with
  | empty => exact push ..
  | literal cs => exact addLiteral ..
  | one s => exact push ..
  | assert => exact push ..
  | group p hp => exact hp ..
  | seq p q hp hq => exact (hp ..).trans (hq ..)
  | alt p q hp hq => exact ((push ..).trans (hp ..)).trans (hq ..)
  | repeated greedy lo hi p hp =>
    match lo, hi with
    | 0, none =>
      simp only [Pattern.addCode]
      split
      · exact (push ..).trans (hp ..)
      · exact ((push ..).trans (hp ..)).trans (push ..)
    | lo + 1, none => exact ((addCopies hp ..).trans (hp ..)).trans (push ..)
    | lo, some hi =>
      simp only [Pattern.addCode]
      split
      · exact push ..
      · exact (addCopies hp ..).trans (addOptions hp ..)

end Begins

/-! ### What instructions ask for -/

/-- The sets of characters that are read, one for each character of a literal. -/
def sets : Pattern → List CharSet
  | empty => []
  | literal cs => cs.map .one
  | one s => [s]
  | assert _ => []
  | group p => p.sets
  | seq p q => p.sets ++ q.sets
  | alt p q => p.sets ++ q.sets
  | repeated _ _ _ p => p.sets

/-- The assertions about the place. -/
def assertions : Pattern → List Assertion
  | empty => []
  | literal _ => []
  | one _ => []
  | assert a => [a]
  | group p => p.assertions
  | seq p q => p.assertions ++ q.assertions
  | alt p q => p.assertions ++ q.assertions
  | repeated _ _ _ p => p.assertions

/-- The instruction reads one of the sets or checks one of the assertions, or it only goes on. -/
def Instruction.IsFrom (sets : List CharSet) (assertions : List Assertion) : Instruction → Prop
  | read s _ => s ∈ sets
  | check a _ => a ∈ assertions
  | _ => True

theorem Instruction.isFrom_choice (sets : List CharSet) (assertions : List Assertion) (greedy : Bool)
    (goOn stop : Nat) : (choice greedy goOn stop).IsFrom sets assertions := by
  cases greedy <;> exact trivial

/-- All instructions are. -/
def AllFrom (sets : List CharSet) (assertions : List Assertion) (program : Array Instruction) : Prop :=
  ∀ ins ∈ program, ins.IsFrom sets assertions

namespace AllFrom
variable {sets : List CharSet} {assertions : List Assertion} {program : Array Instruction}

theorem push {ins : Instruction} (h : AllFrom sets assertions program) (hins : ins.IsFrom sets assertions) :
    AllFrom sets assertions (program.push ins) := by
  intro i hi
  rcases Array.mem_push.1 hi with hi | rfl
  · exact h i hi
  · exact hins

theorem addLiteral {next : Nat} {cs : List Char} (h : AllFrom sets assertions program)
    (hcs : ∀ c ∈ cs, CharSet.one c ∈ sets) : AllFrom sets assertions (addLiteral next cs program) := by
  fun_induction Pattern.addLiteral next cs program with
  | case1 program => exact h.push trivial
  | case2 c program => exact h.push (hcs c (List.mem_cons_self ..))
  | case3 c d cs program ih =>
    exact ih (h.push (hcs c (List.mem_cons_self ..))) fun e he => hcs e (List.mem_cons_of_mem _ he)

section
variable {add : Nat → Array Instruction → Array Instruction}
  (hadd : ∀ next program, AllFrom sets assertions program → AllFrom sets assertions (add next program))
include hadd

theorem addCopies {size next n : Nat} (h : AllFrom sets assertions program) :
    AllFrom sets assertions (addCopies add size next n program) := by
  induction n generalizing program with
  | zero => exact h
  | succ n ih => exact ih (hadd _ _ h)

theorem addOptions {greedy : Bool} {size next n : Nat} (h : AllFrom sets assertions program) :
    AllFrom sets assertions (addOptions greedy add size next n program) := by
  induction n generalizing program with
  | zero => exact h
  | succ n ih => exact ih (hadd _ _ (h.push (Instruction.isFrom_choice ..)))

end

theorem addCode {p : Pattern} (hsets : p.sets ⊆ sets) (hassertions : p.assertions ⊆ assertions) (next : Nat)
    (program : Array Instruction) (h : AllFrom sets assertions program) :
    AllFrom sets assertions (p.addCode next program) := by
  induction p generalizing next program with
  | empty => exact h.push trivial
  | literal cs => exact h.addLiteral fun c hc => hsets (List.mem_map_of_mem hc)
  | one s => exact h.push (hsets (List.mem_singleton_self s))
  | assert a => exact h.push (hassertions (List.mem_singleton_self a))
  | group p hp => exact hp hsets hassertions _ _ h
  | seq p q hp hq =>
    obtain ⟨hps, hqs⟩ := List.append_subset.1 hsets
    obtain ⟨hpa, hqa⟩ := List.append_subset.1 hassertions
    exact hq hqs hqa _ _ (hp hps hpa _ _ h)
  | alt p q hp hq =>
    obtain ⟨hps, hqs⟩ := List.append_subset.1 hsets
    obtain ⟨hpa, hqa⟩ := List.append_subset.1 hassertions
    exact hq hqs hqa _ _ (hp hps hpa _ _ (h.push trivial))
  | repeated greedy lo hi p hp =>
    have hp := hp hsets hassertions
    match lo, hi with
    | 0, none =>
      simp only [Pattern.addCode]
      split
      · exact hp _ _ (h.push (Instruction.isFrom_choice ..))
      · exact (hp _ _ (h.push (Instruction.isFrom_choice ..))).push (Instruction.isFrom_choice ..)
    | lo + 1, none => exact (hp _ _ (h.addCopies hp)).push (Instruction.isFrom_choice ..)
    | lo, some hi =>
      simp only [Pattern.addCode]
      split
      · exact h.push trivial
      · exact (h.addCopies hp).addOptions hp

end AllFrom

/-- The instructions of a program ask for what the pattern asks for. -/
theorem isFrom_program (p : Pattern) : AllFrom p.sets p.assertions p.program := by
  have hcode := AllFrom.addCode (p := p) (List.Subset.refl _) (List.Subset.refl _) p.codeSize #[]
    fun ins hins => absurd hins (Array.not_mem_empty ins)
  exact hcode.push trivial

end Scriptlet.Pattern
