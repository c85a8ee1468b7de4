import Scriptlet.Token.Basic

/-! # Steps of building a token tree

A recipe is a list of steps applied to a tree one after the other. Building stops where a number
leaves the range of offsets. -/

namespace Scriptlet

/-- A change of a token tree. -/
inductive TreeStep where
  | startNode (start stop : Nat) (tags : List StyleTag)
  | close (i : Nat)
  | append (steps : List TreeStep)
  | shift (offset : Nat)
  | leaf (start stop : Nat) (tags : List StyleTag)
  | branch (start stop : Nat) (tags : List StyleTag) (children : List (List TreeStep))
  | rootRange (start stop : Nat)
  | rootTags (tags : List StyleTag)
  | rootEnd (subtreeEnd : Nat)

namespace TreeStep

/-- The tree, if its numbers are offsets. -/
def checked (t : TokenTree) : Except SyntaxError TokenTree :=
  if t.fits then .ok t else .error .offsetOverflow

mutual

/-- The tree after one step. -/
def apply (t : TokenTree) : TreeStep → Except SyntaxError TokenTree
  | startNode start stop tags => .ok (t.startNode start stop tags)
  | close i => .ok (t.close i)
  | append steps => (build .empty steps).bind fun other => checked (t.append other)
  | shift offset => checked (t.shift offset)
  | leaf start stop tags => checked (t.append (.leaf start stop tags))
  | branch start stop tags children =>
    (buildAll children).bind fun children =>
      (checked (.branch start stop tags children)).bind fun other => checked (t.append other)
  | rootRange start stop => .ok (t.modifyRoot fun n => { n with start, stop })
  | rootTags tags => .ok (t.modifyRoot fun n => { n with tags })
  | rootEnd subtreeEnd => .ok (t.modifyRoot fun n => { n with subtreeEnd })

/-- The tree after all steps in order. -/
def build (t : TokenTree) : List TreeStep → Except SyntaxError TokenTree
  | [] => .ok t
  | s :: ss => (apply t s).bind fun t => build t ss

/-- The trees of several recipes. -/
def buildAll : List (List TreeStep) → Except SyntaxError (List TokenTree)
  | [] => .ok []
  | ss :: rest => (build .empty ss).bind fun t => (buildAll rest).map (t :: ·)

end

end TreeStep

end Scriptlet
