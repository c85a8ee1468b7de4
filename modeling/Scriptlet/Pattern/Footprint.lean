import Scriptlet.Pattern.ByteAutomaton
import Scriptlet.Pattern.Normal
import Scriptlet.Text.Utf8

/-! # Footprints of patterns

A pattern can be used if the byte automata that stand for it, one for reading a text forwards and one
for reading it backwards, are not too large. `fits` finds that out without building them: it adds up
the room their states take and stops where the limit is passed. -/

namespace Scriptlet.Pattern

/-- The way a text is read. -/
inductive Direction where
  | forward
  | backward
  deriving DecidableEq, Repr

/-- How much of an automaton has been laid out. -/
structure Layout where
  /-- The number of states. -/
  states : Nat
  /-- The number of bytes they take. -/
  bytes : Nat
  deriving DecidableEq, Repr

namespace Layout

/-- No automaton takes more than this many bytes. -/
def limit : Nat := 10 * 1024 * 1024

/-- A layout without states. -/
def empty : Layout := ⟨0, 0⟩

/-- Adds states of 32 bytes each, and `extra` bytes for ways out of them that do not fit in there: 8
for each byte range of a state that tells several apart, 4 for each way a fork can go. -/
def add (states extra : Nat) (l : Layout) : Option Layout :=
  let bytes := l.bytes + 32 * states + extra
  if bytes ≤ limit then some ⟨l.states + states, bytes⟩ else none

/-- Adds something `n` times, and stops where it cannot be added. -/
def addTimes (add : Layout → Option Layout) : Nat → Layout → Option Layout
  | 0, l => some l
  | n + 1, l =>
    match add l with
    | some l => addTimes add n l
    | none => none

end Layout

/-! ### Words as alternatives

Words that stand as alternatives share what they start with, as far as that keeps the first of them
preferred. -/

/-- Cuts a list of words at each empty one. Of empty words in front of all others only one counts. -/
def stretches (words : List (List UInt8)) : List (List (List UInt8)) :=
  let words := match words with
    | [] :: rest => [] :: rest.dropWhile List.isEmpty
    | words => words
  words.foldr (fun
    | [], stretches => [] :: stretches
    | w, s :: stretches => (w :: s) :: stretches
    | w, [] => [[w]]) [[]]

/-- What follows the first byte of the words, for each first byte. -/
def tailsByHead (words : List (List UInt8)) : List (List (List UInt8)) :=
  (words.filterMap List.head?).eraseDups.map fun b => words.filterMap fun
    | c :: w => if c = b then some w else none
    | [] => none

/-- The number of states that read one of the words, and of extra bytes for the ways out of them. Each
stretch between empty words has a state of its own, and a fork chooses between these and stopping. No
word is longer than `depth`. -/
def wordStates : Nat → List (List UInt8) → Nat × Nat
  | 0, _ => (0, 0)
  | depth + 1, words =>
    if words.all List.isEmpty then (0, 0)
    else
      let cut := stretches words
      cut.foldl (fun (states, extra) stretch =>
        match tailsByHead stretch with
        | [] => (states, extra)
        | [tails] =>
          let (s, e) := wordStates depth tails
          (states + 1 + s, extra + 4 + e)
        | groups =>
          groups.foldl (fun (states, extra) tails =>
            let (s, e) := wordStates depth tails
            (states + s, extra + e)) (states + 1, extra + 4 + 8 * groups.length))
        (1, 4 * (cut.length - 1))

/-- The bytes of the text, in the order in which they are read. -/
def Direction.bytes (d : Direction) (cs : List Char) : List UInt8 :=
  let bytes := cs.flatMap String.utf8EncodeChar
  match d with
  | .forward => bytes
  | .backward => bytes.reverse

/-- The literals the pattern chooses from, if all its choices are literals. -/
def literals? (p : Pattern) : Option (List (List Char)) :=
  p.choices.mapM fun
    | literal cs => some cs
    | _ => none

/-! ### Parts -/

/-- Some part is a set without characters. -/
def hasVoid : Pattern → Bool
  | empty => false
  | literal _ => false
  | one s => s == .none
  | assert _ => false
  | group p => p.hasVoid
  | seq p q => p.hasVoid || q.hasVoid
  | alt p q => p.hasVoid || q.hasVoid
  | repeated _ _ _ p => p.hasVoid

namespace Layout

/-- Adds a character of the set. -/
def addSet (d : Direction) (s : CharSet) (l : Layout) : Option Layout :=
  if s.isAscii then l.add 2 (8 * s.ranges.length)
  else
    let seqs := s.ranges.flatMap Text.byteSequences
    match d with
    | .forward =>
      let (states, transitions) := forwardSize l.states seqs
      l.add states (8 * transitions)
    | .backward => l.add (backwardSize l.states seqs) (4 * seqs.length)

end Layout

/-- How a part stands among the parts of an alternation. -/
inductive Standing where
  /-- It is none of them, or the first. -/
  | first
  /-- It is the second. The fork and the end that the parts share are laid out after it. -/
  | second
  | later

/-- Adds what links a part to the fork of its alternation. -/
def Standing.link (s : Standing) (l : Layout) : Option Layout :=
  match s with
  | .first => some l
  | .second => l.add 2 8
  | .later => l.add 0 4

/-- Adds the states of a pattern. -/
def lay (d : Direction) : Pattern → Standing → Layout → Option Layout
  | empty, s, l => (l.add 1 0).bind s.link
  | literal cs, s, l => (l.add (max 1 (Text.byteLength cs)) 0).bind s.link
  | one set, s, l => (l.addSet d set).bind s.link
  | assert _, s, l => (l.add 1 0).bind s.link
  | group p, s, l =>
    match d with
    | .forward =>
      ((l.add 1 0).bind fun l => (p.lay d .first l).bind (·.add 1 0)).bind s.link
    | .backward => (p.lay d .first l).bind s.link
  | seq p q, s, l =>
    match d with
    | .forward => ((p.lay d .first l).bind (q.lay d .first)).bind s.link
    | .backward => ((q.lay d .first l).bind (p.lay d .first)).bind s.link
  | alt p q, .first, l =>
    match (alt p q).literals? with
    | some words =>
      let words := words.map d.bytes
      let (states, extra) := wordStates ((words.map List.length).foldl max 0 + 1) words
      l.add (states + 1) extra
    | none => (p.lay d .first l).bind (q.lay d .second)
  | alt p q, s, l => ((p.lay d .first l).bind s.link).bind (q.lay d .later)
  | repeated _ 0 (some 1) p, s, l =>
    ((l.add 1 0).bind fun l => (p.lay d .first l).bind (·.add 1 8)).bind s.link
  | repeated _ 0 none p, s, l =>
    (if p.readsSomething && !p.hasVoid then
      (l.add 1 0).bind fun l => (p.lay d .first l).bind (·.add 0 8)
    else (p.lay d .first l).bind (·.add 3 16)).bind s.link
  | repeated _ lo none p, s, l =>
    ((Layout.addTimes (p.lay d .first) lo l).bind (·.add 1 8)).bind s.link
  | repeated _ lo (some hi) p, s, l =>
    let start := if lo = 0 then l.add 1 0 else Layout.addTimes (p.lay d .first) lo l
    (if hi ≤ lo then start
    else
      (start.bind (·.add 1 0)).bind
        (Layout.addTimes (fun l => (l.add 1 8).bind (p.lay d .first)) (hi - lo))).bind s.link

/-! ### The whole -/

/-- A match can only start where the text does. -/
def startsAtTextStart : Pattern → Bool
  | empty => false
  | literal _ => false
  | one _ => false
  | assert a => a == .textStart
  | group p => p.startsAtTextStart
  | seq p q => p.startsAtTextStart || (p.readsNothing && q.startsAtTextStart)
  | alt p q => p.startsAtTextStart && q.startsAtTextStart
  | repeated _ lo _ p => 0 < lo && p.startsAtTextStart

/-- A match can only end where the text does. -/
def endsAtTextEnd : Pattern → Bool
  | empty => false
  | literal _ => false
  | one _ => false
  | assert a => a == .textEnd
  | group p => p.endsAtTextEnd
  | seq p q => q.endsAtTextEnd || (q.readsNothing && p.endsAtTextEnd)
  | alt p q => p.endsAtTextEnd && q.endsAtTextEnd
  | repeated _ lo _ p => 0 < lo && p.endsAtTextEnd

/-- The automaton of a pattern. In front of it stands a single state if a match can only be at one end
of the text, else a loop that passes over what comes before. A state at the end accepts; forwards, two
more mark the ends of the match. -/
def layout? (p : Pattern) : Direction → Option Layout
  | .forward => do
    let l ← if p.startsAtTextStart then Layout.empty.add 1 0 else Layout.empty.add 3 16
    let l ← p.lay .forward .first (← l.add 1 0)
    l.add 2 0
  | .backward => do
    let l ← if p.endsAtTextEnd then Layout.empty.add 1 0 else Layout.empty.add 3 16
    let l ← p.lay .backward .first l
    l.add 1 0

/-- The automata of the pattern are not too large. -/
def fits (p : Pattern) : Bool :=
  (p.layout? .forward).isSome && (p.layout? .backward).isSome

end Scriptlet.Pattern
