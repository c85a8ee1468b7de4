import Scriptlet.Style.Table
import Scriptlet.Token.Basic

/-! # Segments

A walk over the tokens cuts the range of the root into segments, each with the class in effect. A
token's range is first clamped to what its parent has left; its own class covers what its children do
not, and a token without a class takes that of its parent. -/

namespace Scriptlet

/-- A range of bytes and the class in effect there. -/
structure Segment where
  start : Nat
  stop : Nat
  cls : Option String
  deriving DecidableEq, Repr

namespace Segment

/-- The number nearest to `n` between `lo` and `hi`, where `lo` is at most `hi`. -/
def clamp (lo hi n : Nat) : Nat :=
  max lo (min n hi)

/-- The segment between two offsets, unless it is empty. -/
def between (start stop : Nat) (cls : Option String) : List Segment :=
  if start < stop then [⟨start, stop, cls⟩] else []

mutual

/-- The segments of a token with the clamped range and the class given. -/
def ofToken (styles : StyleTable) (start stop : Nat) (cls : Option String) : Token → List Segment
  | .node _ _ _ children => ofChildren styles start stop cls children

/-- The segments from `cursor` to `stop` with the children that remain of a token of class `cls`. -/
def ofChildren (styles : StyleTable) (cursor stop : Nat) (cls : Option String) :
    List Token → List Segment
  | [] => between cursor stop cls
  | .node first last tags children :: rest =>
    let start := clamp cursor stop first
    let finish := clamp start stop last
    between cursor start cls
      ++ ofToken styles start finish ((styles.resolve tags).or cls) (.node first last tags children)
      ++ ofChildren styles finish stop cls rest

end

/-- The segments of the tree over a text of `length` bytes. -/
def ofTree (styles : StyleTable) (length : Nat) (t : TokenTree) : List Segment :=
  match t.token? with
  | none => []
  | some (.node first last tags children) =>
    let start := min first length
    ofToken styles start (clamp start length last) (styles.resolve tags) (.node first last tags children)

end Segment

end Scriptlet
