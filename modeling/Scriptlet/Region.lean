/-! # Regions

A region is a fragment found in a document: the characters from its opener through its closer. -/

namespace Scriptlet

/-- How a fragment sits in its document. -/
inductive RegionKind where
  /-- The opener is at the start of a line. -/
  | block
  /-- The opener is further inside a line. -/
  | inline
  deriving DecidableEq, Repr

/-- The name of the kind. -/
def RegionKind.name : RegionKind → String
  | block => "block"
  | inline => "inline"

/-- A fragment, from the offset of its first character to the one behind its last. -/
structure Region where
  start : Nat
  stop : Nat
  kind : RegionKind
  deriving DecidableEq, Repr

namespace Region

/-- The number of characters. -/
def length (r : Region) : Nat := r.stop - r.start

/-- No characters at all. -/
def isEmpty (r : Region) : Bool := r.start == r.stop

end Region

end Scriptlet
