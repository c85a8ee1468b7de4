import Scriptlet.Style.Modifiers
import Scriptlet.Style.Tag

/-! # Tags with modifiers -/

namespace Scriptlet

/-- A tag refined by modifiers. -/
structure StyleTag where
  tag : Tag
  modifiers : Modifiers := .none
  deriving DecidableEq, Repr

namespace StyleTag

/-- The tag with more modifiers. -/
def plus (t : StyleTag) (m : Modifiers) : StyleTag :=
  { t with modifiers := t.modifiers.union m }

/-- The tag inside its modifiers, written like nested calls with the last modifier outermost. -/
def render (t : StyleTag) : String :=
  let names := t.modifiers.names.reverse
  String.join (names.map (· ++ "(")) ++ t.tag.spelling ++ String.join (names.map fun _ => ")")

end StyleTag

end Scriptlet
