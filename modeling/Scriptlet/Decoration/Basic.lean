import Scriptlet.Decoration.Attributes
import Scriptlet.Region

/-! # Decorations

A decoration is put on a whole line or on a range of characters, with a class and attributes. The
host takes decorations in order of their anchors only, so `Decorations` is built by a builder that
refuses anything else. -/

namespace Scriptlet

/-- A decoration of a whole line. -/
structure LineMark where
  /-- The offset of the first character of the line. -/
  lineStart : Nat
  cls : String
  attributes : Attributes
  deriving DecidableEq, Repr

/-- A decoration of a range of characters. -/
structure Mark where
  start : Nat
  stop : Nat
  cls : String
  attributes : Attributes
  deriving DecidableEq, Repr

/-- Why a decoration was refused. -/
inductive DecorationError where
  | outOfOrder (offset last : Nat)
  | inverted (start stop : Nat)
  deriving DecidableEq, Repr

/-- The error in words. -/
def DecorationError.message : DecorationError → String
  | outOfOrder offset last => s!"Decoration at {offset} inserted after one at {last}"
  | inverted start stop => s!"Decoration range {start}..{stop} is inverted"

/-- A mark without attributes. -/
def Mark.new (start stop : Nat) (cls : String) : Except DecorationError Mark :=
  if start ≤ stop then .ok ⟨start, stop, cls, .empty⟩ else .error (.inverted start stop)

/-- The mark with other attributes. -/
def Mark.withAttributes (m : Mark) (attributes : Attributes) : Mark :=
  { m with attributes }

/-- Something with a place in the order of decorations. -/
class Anchored (α : Type) where
  anchor : α → Nat

export Anchored (anchor)

instance : Anchored LineMark := ⟨LineMark.lineStart⟩
instance : Anchored Mark := ⟨Mark.start⟩

/-- Decorations taken in so far. -/
structure SetBuilder (α : Type) where
  items : Array α := #[]
  /-- The anchor of the last one, or zero. -/
  last : Nat := 0

namespace SetBuilder

variable {α : Type} [Anchored α]

/-- Takes in a decoration, unless its anchor is before that of the last. -/
def add (b : SetBuilder α) (item : α) : Except DecorationError (SetBuilder α) :=
  if b.last ≤ anchor item then .ok ⟨b.items.push item, anchor item⟩
  else .error (.outOfOrder (anchor item) b.last)

end SetBuilder

/-- The decorations of a document. -/
structure Decorations where
  lines : List LineMark
  marks : List Mark
  /-- The regions whose fragment has no token marks, as it could not be highlighted. -/
  unhighlighted : List Region
  deriving DecidableEq, Repr

namespace Decorations

/-- No decorations. -/
def empty : Decorations := ⟨[], [], []⟩

/-- Nothing to show. -/
def isEmpty (d : Decorations) : Bool := d.lines.isEmpty && d.marks.isEmpty

end Decorations

end Scriptlet
