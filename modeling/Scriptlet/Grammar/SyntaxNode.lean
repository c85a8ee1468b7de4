/-! # Concrete trees

What a parser of a language says about a text: nodes with a kind, a range of bytes and, in their
parent, perhaps a field. -/

namespace Scriptlet

/-- What a parser had to do to go on. -/
inductive NodeFault where
  /-- It could make nothing of the text. -/
  | error
  /-- It supplied what should have been there. -/
  | missing
  deriving DecidableEq, Repr

/-- All that is known about a node by itself. -/
structure NodeInfo where
  kind : String
  /-- It stands for a rule of the language and not for a piece of its text. -/
  named : Bool
  start : Nat
  stop : Nat
  field : Option String
  fault : Option NodeFault
  deriving DecidableEq, Repr

namespace NodeInfo

/-- The node covers no text. -/
def isEmpty (n : NodeInfo) : Bool := !(n.start < n.stop)

end NodeInfo

/-- A node with those inside it. -/
inductive SyntaxNode where
  | node (info : NodeInfo) (children : List SyntaxNode)

namespace SyntaxNode

/-- The trees of a list of nodes in preorder, each with its depth, from the last node to the first:
a node takes in the deeper trees that follow it. -/
def forest : List (Nat × NodeInfo) → List (Nat × SyntaxNode)
  | [] => []
  | (depth, info) :: rows =>
    let later := forest rows
    (depth, .node info ((later.takeWhile (depth < ·.1)).map (·.2))) :: later.dropWhile (depth < ·.1)

/-- The tree of a list of nodes in preorder, each with its depth. -/
def ofPreorder? (rows : List (Nat × NodeInfo)) : Option SyntaxNode :=
  (forest rows).head?.map (·.2)

end SyntaxNode

end Scriptlet
