import Scriptlet.Pattern.Basic

/-! # Putting patterns together

A written pattern is brought into a normal form as it is put together from its parts: sequences and
alternatives are flat, literals that follow each other are one, single characters and sets that stand
as alternatives are one set, and alternatives that start with the same parts share them. Which of two
matches is preferred is decided on that form. -/

namespace Scriptlet.Pattern

/-- A character of the set: a literal if the set has just one. -/
def ofSet (s : CharSet) : Pattern :=
  match s.only? with
  | some c => literal [c]
  | none => one s

/-! ### Sequences -/

/-- The parts of a sequence. -/
def items : Pattern → List Pattern
  | empty => []
  | seq p q => p :: q.items
  | p => [p]

/-- The sequence of the parts. -/
def ofItems : List Pattern → Pattern
  | [] => empty
  | [p] => p
  | p :: q :: ps => seq p (ofItems (q :: ps))

/-- Makes one literal of those that follow each other. -/
def joinLiterals (ps : List Pattern) : List Pattern :=
  ps.foldr (fun
    | literal cs, literal ds :: qs => literal (cs ++ ds) :: qs
    | p, qs => p :: qs) []

/-- One after the other. -/
def concat (ps : List Pattern) : Pattern :=
  ofItems (joinLiterals (ps.flatMap items))

/-! ### Alternatives -/

/-- The parts of which one is to match. -/
def choices : Pattern → List Pattern
  | alt p q => p :: q.choices
  | p => [p]

/-- The pattern that matches as the first of the parts that does. -/
def ofChoices : List Pattern → Pattern
  | [] => one .none
  | [p] => p
  | p :: q :: ps => alt p (ofChoices (q :: ps))

/-- The character, if the pattern is the literal of one. -/
def asChar? : Pattern → Option Char
  | literal [c] => some c
  | _ => none

/-- The set, if the pattern is one. -/
def asSet? : Pattern → Option CharSet
  | one s => some s
  | _ => none

/-- One of the parts, the first preferred: a set, if all are characters or all are sets. -/
def joinChoices : List Pattern → Pattern
  | [p] => p
  | ps =>
    match ps.mapM asChar?, ps.mapM asSet? with
    | some cs, _ => ofSet (.ofList cs)
    | none, some ss => ofSet (ss.foldl .union .none)
    | none, none => ofChoices ps

/-- The pattern is a sequence. -/
def isSeq : Pattern → Bool
  | seq _ _ => true
  | _ => false

/-- The parts with which both lists start. Two groups are never the same. -/
def commonStart : List Pattern → List Pattern → List Pattern
  | p :: ps, q :: qs => if p = q ∧ !p.hasGroup then p :: commonStart ps qs else []
  | _, _ => []

/-- The parts with which all the patterns start, if there are several and all are sequences. -/
def sharedStart : List Pattern → List Pattern
  | p :: q :: ps =>
    if (p :: q :: ps).all isSeq then (q :: ps).foldl (fun start r => commonStart start r.items) p.items
    else []
  | _ => []

/-- One of the patterns, the first preferred. What all start with is taken out. -/
def choose (ps : List Pattern) : Pattern :=
  let ps := ps.flatMap choices
  match sharedStart ps with
  | [] => joinChoices ps
  | start =>
    let rests := ps.map fun p => concat (p.items.drop start.length)
    concat (start ++ [joinChoices (rests.flatMap choices)])

/-! ### Repetitions -/

/-- From `lo` to `hi` times. What reads nothing need not be matched more than once. -/
def repeatedly (greedy : Bool) (lo : Nat) (hi : Option Nat) (p : Pattern) : Pattern :=
  let (lo, hi) := if p.readsNothing then (min lo 1, some (min 1 (hi.getD 1))) else (lo, hi)
  match lo, hi with
  | 0, some 0 => empty
  | 1, some 1 => p
  | lo, hi => repeated greedy lo hi p

end Scriptlet.Pattern
