import Scriptlet.Style.StyleTag
import Scriptlet.SyntaxError

/-! # Token trees

A grammar hands over a tree of tokens as an array in preorder, in which every node records where its
subtree ends: the children of node `i` start at `i + 1` and hop from one to the next through
`subtreeEnd`. `tokens` reads such an array as a tree whatever its ends say. -/

namespace Scriptlet

/-- A token: its range of bytes, its tags and the tokens inside it. -/
inductive Token where
  | node (start stop : Nat) (tags : List StyleTag) (children : List Token)

/-- One entry of the preorder array. -/
structure TokenNode where
  start : Nat
  stop : Nat
  tags : List StyleTag
  /-- The index of the first node behind the subtree. -/
  subtreeEnd : Nat
  deriving DecidableEq, Repr

/-- A tree of tokens in preorder. -/
structure TokenTree where
  nodes : Array TokenNode
  deriving DecidableEq, Repr

namespace TokenTree

/-- The tree without nodes. -/
def empty : TokenTree := ⟨#[]⟩

/-- The number of nodes. -/
def size (t : TokenTree) : Nat := t.nodes.size

/-- No nodes at all. -/
def isEmpty (t : TokenTree) : Bool := t.nodes.isEmpty

/-- The first node. -/
def root? (t : TokenTree) : Option TokenNode := t.nodes[0]?

/-! ### Building -/

/-- Starts a node, to be closed at the index `t.size`. What is added until then is inside it. -/
def startNode (t : TokenTree) (start stop : Nat) (tags : List StyleTag) : TokenTree :=
  ⟨t.nodes.push ⟨start, stop, tags, t.size + 1⟩⟩

/-- Ends the subtree of the node at the index with the last node. -/
def close (t : TokenTree) (i : Nat) : TokenTree :=
  ⟨t.nodes.modify i fun n => { n with subtreeEnd := t.size }⟩

/-- Adds the nodes of another tree. -/
def append (t other : TokenTree) : TokenTree :=
  ⟨t.nodes ++ other.nodes.map fun n => { n with subtreeEnd := n.subtreeEnd + t.size }⟩

/-- Moves every range to the right. -/
def shift (t : TokenTree) (offset : Nat) : TokenTree :=
  ⟨t.nodes.map fun n => { n with start := n.start + offset, stop := n.stop + offset }⟩

/-- Changes the first node. -/
def modifyRoot (t : TokenTree) (f : TokenNode → TokenNode) : TokenTree :=
  ⟨t.nodes.modify 0 f⟩

/-- The tree of one node. -/
def leaf (start stop : Nat) (tags : List StyleTag) : TokenTree :=
  (empty.startNode start stop tags).close 0

/-- The tree of a node around others. -/
def branch (start stop : Nat) (tags : List StyleTag) (children : List TokenTree) : TokenTree :=
  (children.foldl append (empty.startNode start stop tags)).close 0

/-- No number in the tree is beyond the largest offset. -/
def fits (t : TokenTree) : Bool :=
  t.nodes.all fun n => n.start ≤ maxOffset && n.stop ≤ maxOffset && n.subtreeEnd ≤ maxOffset

/-! ### Reading -/

/-- The tokens that start at index `i`, hopping from each to the end of its subtree, as long as the
index is less than `stop`. -/
def tokensFrom (nodes : Array TokenNode) (i stop : Nat) : List Token :=
  if h : i < stop ∧ i < nodes.size then
    let n := nodes[i]
    .node n.start n.stop n.tags (tokensFrom nodes (i + 1) n.subtreeEnd) ::
      tokensFrom nodes (max n.subtreeEnd (i + 1)) stop
  else []
termination_by nodes.size - i
decreasing_by all_goals omega

/-- The first node with its children, if there is one. -/
def token? (t : TokenTree) : Option Token :=
  t.root?.map fun n => .node n.start n.stop n.tags (tokensFrom t.nodes 1 n.subtreeEnd)

end TokenTree

end Scriptlet
