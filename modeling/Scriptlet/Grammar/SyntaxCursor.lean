import Scriptlet.Grammar.SyntaxNode

/-! # Places in concrete trees

A cursor is a node together with what lies around it. It moves to the first child, the next sibling and
the parent, and tells where there is none. -/

namespace Scriptlet

namespace SyntaxNode

def info : SyntaxNode → NodeInfo
  | .node info _ => info

def children : SyntaxNode → List SyntaxNode
  | .node _ children => children

mutual

/-- The number of nodes in a tree. -/
def size : SyntaxNode → Nat
  | .node _ children => 1 + sizeAll children

def sizeAll : List SyntaxNode → Nat
  | [] => 0
  | n :: ns => n.size + sizeAll ns

end

end SyntaxNode

/-- A node and what lies around it. -/
structure SyntaxCursor where
  node : SyntaxNode
  /-- The siblings behind it. -/
  later : List SyntaxNode
  /-- The nodes around it, innermost first, each with its siblings behind it. -/
  around : List (SyntaxNode × List SyntaxNode)

namespace SyntaxCursor

def root (n : SyntaxNode) : SyntaxCursor := ⟨n, [], []⟩

def firstChild? (c : SyntaxCursor) : Option SyntaxCursor :=
  match c.node.children with
  | [] => none
  | n :: ns => some ⟨n, ns, (c.node, c.later) :: c.around⟩

def nextSibling? (c : SyntaxCursor) : Option SyntaxCursor :=
  match c.later with
  | [] => none
  | n :: ns => some ⟨n, ns, c.around⟩

def parent? (c : SyntaxCursor) : Option SyntaxCursor :=
  match c.around with
  | [] => none
  | (n, later) :: around => some ⟨n, later, around⟩

/-- The number of nodes behind those around a node. -/
def behindAll : List (SyntaxNode × List SyntaxNode) → Nat
  | [] => 0
  | p :: around => SyntaxNode.sizeAll p.2 + behindAll around

/-- The number of nodes behind the node. -/
def behind (c : SyntaxCursor) : Nat :=
  SyntaxNode.sizeAll c.later + behindAll c.around

/-- The number of nodes from the node on: it, those inside it and those behind it. -/
def remaining (c : SyntaxCursor) : Nat :=
  c.node.size + c.behind

variable {c next : SyntaxCursor}

theorem behind_lt_remaining (c : SyntaxCursor) : c.behind < c.remaining := by
  obtain ⟨⟨info, children⟩, later, around⟩ := c
  simp only [remaining, SyntaxNode.size]
  omega

theorem remaining_firstChild (h : c.firstChild? = some next) : next.remaining < c.remaining := by
  obtain ⟨⟨info, children⟩, later, around⟩ := c
  cases children with
  | nil => cases h
  | cons n ns =>
    cases h
    simp only [remaining, behind, behindAll, SyntaxNode.size, SyntaxNode.sizeAll]
    omega

theorem remaining_nextSibling (h : c.nextSibling? = some next) : next.remaining ≤ c.behind := by
  obtain ⟨node, later, around⟩ := c
  cases later with
  | nil => cases h
  | cons n ns =>
    cases h
    simp only [remaining, behind, SyntaxNode.sizeAll]
    omega

theorem behind_parent (h : c.parent? = some next) :
    next.behind ≤ c.behind ∧ next.around.length < c.around.length := by
  obtain ⟨node, later, around⟩ := c
  cases around with
  | nil => cases h
  | cons p around =>
    cases h
    simp only [behind, behindAll, List.length_cons]
    omega

end SyntaxCursor

end Scriptlet
