/-! # Modifiers

A set of modifiers refines a tag: a variable may be defined, called, local. Sets are masks of six
bits. -/

namespace Scriptlet

/-- A set of modifiers. -/
structure Modifiers where
  mask : BitVec 6
  deriving DecidableEq, Repr

namespace Modifiers

/-- The empty set. -/
def none : Modifiers := ⟨0⟩

def definition : Modifiers := ⟨1⟩
def constant : Modifiers := ⟨2⟩
def function : Modifiers := ⟨4⟩
def standard : Modifiers := ⟨8⟩
def localScope : Modifiers := ⟨16⟩
def special : Modifiers := ⟨32⟩

/-- The sets of one modifier with its name, in the order of their bits. -/
def spellings : List (Modifiers × String) :=
  [(definition, "definition"), (constant, "constant"), (function, "function"),
    (standard, "standard"), (localScope, "local"), (special, "special")]

/-- The modifiers of either set. -/
def union (a b : Modifiers) : Modifiers := ⟨a.mask ||| b.mask⟩

/-- Every modifier of `b` is one of `a`. -/
def contains (a b : Modifiers) : Bool := a.mask &&& b.mask == b.mask

/-- No modifiers at all. -/
def isEmpty (a : Modifiers) : Bool := a.mask == 0

/-- The names of the modifiers, in the order of their bits. -/
def names (a : Modifiers) : List String :=
  (spellings.filter fun m => a.contains m.1).map (·.2)

/-- The number of modifiers. -/
def size (a : Modifiers) : Nat := a.names.length

/-- The set of the modifier of that name. -/
def ofName? (s : String) : Option Modifiers :=
  (spellings.find? fun m => m.2 == s).map (·.1)

/-- The masks within `m` from `sub` down, where `sub` is one of them: of those less than `sub` the largest
is `(sub - 1) &&& m`. -/
def masksFrom (m sub : BitVec 6) : List (BitVec 6) :=
  if h : sub = 0 then [sub] else sub :: masksFrom m ((sub - 1) &&& m)
termination_by sub.toNat
decreasing_by
  have hpos : 1 ≤ sub.toNat := Nat.pos_of_ne_zero fun hz => h (BitVec.eq_of_toNat_eq hz)
  have hle : ((sub - 1) &&& m).toNat ≤ (sub - 1).toNat := Nat.and_le_left
  have hsub : (sub - 1).toNat = sub.toNat - 1 := BitVec.toNat_sub_of_le (BitVec.le_def.2 hpos)
  omega

/-- The set comes first in a list of subsets: it has more modifiers, or as many and the larger mask. -/
def ranksAbove (a b : Modifiers) : Bool :=
  b.size < a.size || (b.size == a.size && b.mask ≤ a.mask)

/-- The subsets of a set, those with more modifiers first, and of two with as many the one with the
larger mask. -/
def subsets (a : Modifiers) : List Modifiers :=
  ((masksFrom a.mask a.mask).map Modifiers.mk).mergeSort ranksAbove

end Modifiers

end Scriptlet
