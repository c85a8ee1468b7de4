import Scriptlet.Text.ByteRange
import Std.Data.HashMap

/-! # Byte automata of character sets

A set of characters is recognised byte by byte by an automaton in which byte sequences share what they
have in common. States are numbered from a given one on in the order in which they are laid out. Only
their number matters here (`forwardSize`, `backwardSize`).

States are shared through a table of fixed size. A state stands in the place its hash picks and drives
out what stood there, so a state that has been driven out is laid out once more when it is needed
again. -/

namespace Scriptlet.Pattern

open Text (ByteRange)

/-- The hash of a list of numbers: each is mixed in by exclusive or and a multiplication. -/
def hashOf (ns : List UInt64) : UInt64 :=
  ns.foldl (fun h n => (h ^^^ n) * 1099511628211) 14695981039346656037

/-- States that can be shared, each with its number, by their place. -/
abbrev SharedStates (α : Type) := Std.HashMap UInt64 (α × Nat)

/-- The number of the state that stands at the place, if it is the given one. -/
def sharedState? {α : Type} [DecidableEq α] (shared : SharedStates α) (place : UInt64) (state : α) :
    Option Nat :=
  match shared[place]? with
  | some (other, number) => if other = state then some number else none
  | none => none

/-! ### Forwards

The sequences are read from their first byte on, and states that go on alike are shared. -/

/-- A byte range and the number of the state it leads to. -/
abbrev Transition := ByteRange × Nat

/-- What has been laid out of an automaton that reads forwards. -/
structure ForwardStates where
  /-- The number of the next state. -/
  next : Nat
  /-- The number of transitions so far. -/
  transitions : Nat
  shared : SharedStates (List Transition)

/-- How many places there are for shared states that read forwards. -/
def forwardPlaces : UInt64 := 10000

/-- The number of the state with the transitions. -/
def ForwardStates.add (a : ForwardStates) (state : List Transition) : Nat × ForwardStates :=
  let place :=
    hashOf (state.flatMap fun t => [t.1.1.toUInt64, t.1.2.toUInt64, t.2.toUInt64]) % forwardPlaces
  match sharedState? a.shared place state with
  | some number => (number, a)
  | none =>
    (a.next, ⟨a.next + 1, a.transitions + state.length, a.shared.insert place (state, a.next)⟩)

/-- The first ranges of the sequences, each once and with what follows it. Equal ranges stand together. -/
def byFirst (seqs : List (List ByteRange)) : List (ByteRange × List (List ByteRange)) :=
  seqs.foldr (fun
    | [], groups => groups
    | r :: rest, (s, rests) :: groups =>
      if r = s then (s, (rest :: rests)) :: groups else (r, [rest]) :: (s, rests) :: groups
    | r :: rest, [] => [(r, [rest])]) []

/-- Lays out the states that read the sequences, which end after at most `depth` bytes and lead to
`target`, and gives the number of the first. -/
def forwardState (target : Nat) :
    Nat → List (List ByteRange) → ForwardStates → Nat × ForwardStates
  | 0, _, a => (target, a)
  | depth + 1, seqs, a =>
    match byFirst seqs with
    | [] => (target, a)
    | groups =>
      let (state, a) := groups.foldl (fun (state, a) (r, rests) =>
        let (next, a) := forwardState target depth rests a
        ((r, next) :: state, a)) ([], a)
      a.add state.reverse

/-- The number of states and of transitions for the byte sequences, if the first state has the given
number. The state behind all of them comes first. -/
def forwardSize (first : Nat) (seqs : List (List ByteRange)) : Nat × Nat :=
  let (_, a) := forwardState first 4 seqs ⟨first + 1, 0, ∅⟩
  (a.next - first, a.transitions)

/-! ### Backwards

The sequences are read from their last byte on. Each state reads one range, and sequences that start
alike share the states that read what they start with. -/

/-- What has been laid out of an automaton that reads backwards. -/
structure BackwardStates where
  /-- The number of the next state. -/
  next : Nat
  shared : SharedStates (Nat × ByteRange)

/-- How many places there are for shared states that read backwards. -/
def backwardPlaces : UInt64 := 1000

/-- The number of the state that reads the range and leads to the state `target`. -/
def BackwardStates.add (a : BackwardStates) (target : Nat) (r : ByteRange) : Nat × BackwardStates :=
  let place := hashOf [target.toUInt64, r.1.toUInt64, r.2.toUInt64] % backwardPlaces
  match sharedState? a.shared place (target, r) with
  | some number => (number, a)
  | none => (a.next, ⟨a.next + 1, a.shared.insert place ((target, r), a.next)⟩)

/-- The number of states for the byte sequences, if the first state has the given number. A fork to all
sequences and the state behind them come first. -/
def backwardSize (first : Nat) (seqs : List (List ByteRange)) : Nat :=
  let a := seqs.foldl (fun a seq => (seq.foldl (fun (target, a) r => a.add target r) (first + 1, a)).2)
    (⟨first + 2, ∅⟩ : BackwardStates)
  a.next - first

end Scriptlet.Pattern
