import Scriptlet.Pattern.CharSet

/-! # Patterns

A pattern is a term over literals, character sets and assertions about the place it is tried at. How
one matches is said in `Scriptlet.Pattern.Matching`; how one is written, in `Scriptlet.Pattern.Reader`. -/

namespace Scriptlet

/-- A condition on the place between two characters. -/
inductive Assertion where
  | textStart
  | textEnd
  | lineStart
  | lineEnd
  /-- As `lineStart`, where a carriage return, a line feed or the two together end a line. -/
  | anyLineStart
  /-- As `lineEnd`, where a carriage return, a line feed or the two together end a line. -/
  | anyLineEnd
  | wordEdge (ascii : Bool)
  | notWordEdge (ascii : Bool)
  | wordStart (ascii : Bool)
  | wordEnd (ascii : Bool)
  /-- No word character comes before. -/
  | wordStartHalf (ascii : Bool)
  /-- No word character comes after. -/
  | wordEndHalf (ascii : Bool)
  deriving DecidableEq, Repr

/-- The characters on both sides of a place, where there are any. -/
structure Place where
  before : Option Char
  after : Option Char
  deriving DecidableEq, Repr

namespace Assertion

/-- The character is there and belongs to a word. -/
def inWord (ascii : Bool) : Option Char → Bool
  | none => false
  | some c => if ascii then Text.isAsciiWord c else Text.isWord c

/-- The condition holds at the place. -/
def holds (p : Place) : Assertion → Bool
  | textStart => p.before == none
  | textEnd => p.after == none
  | lineStart => p.before == none || p.before == some '\n'
  | lineEnd => p.after == none || p.after == some '\n'
  | anyLineStart =>
    p.before == none || p.before == some '\n' || (p.before == some '\r' && p.after != some '\n')
  | anyLineEnd =>
    p.after == none || p.after == some '\r' || (p.after == some '\n' && p.before != some '\r')
  | wordEdge a => inWord a p.before != inWord a p.after
  | notWordEdge a => inWord a p.before == inWord a p.after
  | wordStart a => !inWord a p.before && inWord a p.after
  | wordEnd a => inWord a p.before && !inWord a p.after
  | wordStartHalf a => !inWord a p.before
  | wordEndHalf a => !inWord a p.after

end Assertion

/-- A pattern. -/
inductive Pattern where
  | empty
  /-- The characters one after the other. -/
  | literal (cs : List Char)
  | one (s : CharSet)
  | assert (a : Assertion)
  /-- A part in a group of its own. -/
  | group (p : Pattern)
  | seq (p q : Pattern)
  /-- Either, the first preferred. -/
  | alt (p q : Pattern)
  /-- From `lo` to `hi` times, without upper bound if there is no `hi`. A `greedy` repetition prefers to
  go on, any other to stop. -/
  | repeated (greedy : Bool) (lo : Nat) (hi : Option Nat) (p : Pattern)
  deriving DecidableEq, Repr

namespace Pattern

/-- No match reads anything. -/
def readsNothing : Pattern → Bool
  | empty => true
  | literal cs => cs.isEmpty
  | one _ => false
  | assert _ => true
  | group p => p.readsNothing
  | seq p q => p.readsNothing && q.readsNothing
  | alt p q => p.readsNothing && q.readsNothing
  | repeated _ _ hi p => hi.isSome && p.readsNothing

/-- Every match reads something. -/
def readsSomething : Pattern → Bool
  | empty => false
  | literal cs => !cs.isEmpty
  | one _ => true
  | assert _ => false
  | group p => p.readsSomething
  | seq p q => p.readsSomething || q.readsSomething
  | alt p q => p.readsSomething && q.readsSomething
  | repeated _ lo _ p => 0 < lo && p.readsSomething

/-- Some part is a group. -/
def hasGroup : Pattern → Bool
  | empty => false
  | literal _ => false
  | one _ => false
  | assert _ => false
  | group _ => true
  | seq p q => p.hasGroup || q.hasGroup
  | alt p q => p.hasGroup || q.hasGroup
  | repeated _ _ _ p => p.hasGroup

end Pattern

end Scriptlet
