import Scriptlet.Pattern.Basic

/-! # Programs of patterns

To be matched, a pattern is laid out as a program: instructions that name each other by their index.
The code of a part stands together, starts with its first instruction and goes on at an index given
from outside, so that parts are put together by their sizes alone (`size_addCode`). -/

namespace Scriptlet.Pattern

/-- An instruction. -/
inductive Instruction where
  /-- Reads a character of the set. -/
  | read (s : CharSet) (next : Nat)
  /-- Goes on if the assertion holds. -/
  | check (a : Assertion) (next : Nat)
  | jump (next : Nat)
  /-- Goes on at both, the first preferred. -/
  | fork (first second : Nat)
  | accept
  deriving DecidableEq, Repr

/-- The choice between going on and stopping, going on preferred if greedy. -/
def Instruction.choice (greedy : Bool) (goOn stop : Nat) : Instruction :=
  if greedy then fork goOn stop else fork stop goOn

/-- The number of instructions of the code of a pattern. -/
def codeSize : Pattern → Nat
  | empty => 1
  | literal cs => max 1 cs.length
  | one _ => 1
  | assert _ => 1
  | group p => p.codeSize
  | seq p q => p.codeSize + q.codeSize
  | alt p q => 1 + p.codeSize + q.codeSize
  | repeated _ 0 none p => if p.readsSomething then 1 + p.codeSize else 1 + p.codeSize + 1
  | repeated _ (lo + 1) none p => lo * p.codeSize + p.codeSize + 1
  | repeated _ lo (some hi) p => max 1 (lo * p.codeSize + (hi - lo) * (1 + p.codeSize))

/-! ### Pieces of code

Each adds its instructions to a program and goes on at `next` behind the last. -/

/-- Reads the characters. -/
def addLiteral (next : Nat) : List Char → Array Instruction → Array Instruction
  | [], program => program.push (.jump next)
  | [c], program => program.push (.read (.one c) next)
  | c :: d :: cs, program =>
    addLiteral next (d :: cs) (program.push (.read (.one c) (program.size + 1)))

/-- `n` copies of a part of the given size. -/
def addCopies (add : Nat → Array Instruction → Array Instruction) (size next : Nat) :
    Nat → Array Instruction → Array Instruction
  | 0, program => program
  | n + 1, program =>
    addCopies add size next n (add (if n = 0 then next else program.size + size) program)

/-- Up to `n` copies of a part of the given size, each behind a choice to stop. -/
def addOptions (greedy : Bool) (add : Nat → Array Instruction → Array Instruction)
    (size next : Nat) : Nat → Array Instruction → Array Instruction
  | 0, program => program
  | n + 1, program =>
    let i := program.size
    addOptions greedy add size next n
      (add (if n = 0 then next else i + 1 + size) (program.push (.choice greedy (i + 1) next)))

/-- Adds the code of a pattern.

A repetition comes back to its choice after each pass. If a pass may read nothing, the first one is
left through a choice of its own: the choice in front of it would be taken as already made, and the
rest of the pass preferred to what follows the repetition. -/
def addCode : Pattern → Nat → Array Instruction → Array Instruction
  | empty, next, program => program.push (.jump next)
  | literal cs, next, program => addLiteral next cs program
  | one s, next, program => program.push (.read s next)
  | assert a, next, program => program.push (.check a next)
  | group p, next, program => p.addCode next program
  | seq p q, next, program => q.addCode next (p.addCode (program.size + p.codeSize) program)
  | alt p q, next, program =>
    let i := program.size
    q.addCode next (p.addCode next (program.push (.fork (i + 1) (i + 1 + p.codeSize))))
  | repeated greedy 0 none p, next, program =>
    let i := program.size
    let program := program.push (.choice greedy (i + 1) next)
    if p.readsSomething then p.addCode i program
    else (p.addCode (i + 1 + p.codeSize) program).push (.choice greedy (i + 1) next)
  | repeated greedy (lo + 1) none p, next, program =>
    let last := program.size + lo * p.codeSize
    let program := addCopies p.addCode p.codeSize last lo program
    (p.addCode (last + p.codeSize) program).push (.choice greedy last next)
  | repeated greedy lo (some hi) p, next, program =>
    if lo = 0 ∧ hi = 0 then program.push (.jump next)
    else
      let rest := if hi ≤ lo then next else program.size + lo * p.codeSize
      addOptions greedy p.addCode p.codeSize next (hi - lo)
        (addCopies p.addCode p.codeSize rest lo program)

theorem size_addLiteral (next : Nat) (cs : List Char) (program : Array Instruction) :
    (addLiteral next cs program).size = program.size + max 1 cs.length := by
  fun_induction addLiteral next cs program with
  | case1 => simp
  | case2 => simp
  | case3 c d cs program ih => simp only [ih, Array.size_push, List.length_cons]; omega

theorem size_addCopies {add : Nat → Array Instruction → Array Instruction} {size : Nat}
    (h : ∀ next program, (add next program).size = program.size + size) (next n : Nat)
    (program : Array Instruction) :
    (addCopies add size next n program).size = program.size + n * size := by
  induction n generalizing program with
  | zero => simp [addCopies]
  | succ n ih => rw [addCopies, ih, h, Nat.succ_mul]; omega

theorem size_addOptions {add : Nat → Array Instruction → Array Instruction} {size : Nat}
    (greedy : Bool) (h : ∀ next program, (add next program).size = program.size + size)
    (next n : Nat) (program : Array Instruction) :
    (addOptions greedy add size next n program).size = program.size + n * (1 + size) := by
  induction n generalizing program with
  | zero => simp [addOptions]
  | succ n ih => simp only [addOptions, ih, h, Array.size_push, Nat.succ_mul]; omega

theorem codeSize_pos (p : Pattern) : 0 < p.codeSize := by
  fun_induction codeSize p <;> omega

/-- The code of a pattern has the size it is given. -/
theorem size_addCode (p : Pattern) (next : Nat) (program : Array Instruction) :
    (p.addCode next program).size = program.size + p.codeSize := by
  induction p generalizing next program with
  | empty => simp [addCode, codeSize]
  | literal cs => simp [addCode, codeSize, size_addLiteral]
  | one => simp [addCode, codeSize]
  | assert => simp [addCode, codeSize]
  | group p hp => simp [addCode, codeSize, hp]
  | seq p q hp hq => simp [addCode, codeSize, hp, hq]; omega
  | alt p q hp hq => simp [addCode, codeSize, hp, hq]; omega
  | repeated greedy lo hi p hp =>
    match lo, hi with
    | 0, none => by_cases h : p.readsSomething <;> simp [addCode, codeSize, h, hp] <;> omega
    | lo + 1, none => simp [addCode, codeSize, hp, size_addCopies hp]; omega
    | lo, some hi =>
      by_cases h : lo = 0 ∧ hi = 0
      · simp [addCode, codeSize, h]
      · simp only [addCode, codeSize, h, if_false, size_addOptions greedy hp, size_addCopies hp]
        have := p.codeSize_pos
        have : 0 < lo * p.codeSize + (hi - lo) * (1 + p.codeSize) := by
          rcases Nat.eq_zero_or_pos lo with rfl | hlo
          · have : 0 < hi := by omega
            exact Nat.add_pos_right _ (Nat.mul_pos (by omega) (by omega))
          · exact Nat.add_pos_left (Nat.mul_pos hlo this) _
        omega

/-- The program of a pattern: its code, and the instruction to accept behind it. -/
def program (p : Pattern) : Array Instruction :=
  (p.addCode p.codeSize #[]).push .accept

end Scriptlet.Pattern
