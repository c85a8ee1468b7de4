import Scriptlet.Grammar.JavaScript
import Scriptlet.Proofs.NodePlaces

/-!
# The tokens of a JavaScript text

The walk over a concrete tree is one loop with a cursor and a stack of open tokens. It lays out what a
recursion over the tree says: every node becomes a token with its tags (`JavaScript.token`), and the tokens that
cover no text are taken out with all that is inside them (`Token.prune`). The step that carries this is
`Draft.walk_node`: a walk that comes to a node goes on behind it with the node's tokens laid out and with the
same tokens open (`Draft.resume`); from there `Draft.resume_siblings` follows over the nodes behind.
-/

namespace Scriptlet
open Text (byteLength)

/-! ### The tokens of a tree -/

namespace Token

mutual

/-- The tree without the tokens that cover no text, and what is inside them. The root stays. -/
def prune : Token → Token
  | .node start stop tags children => .node start stop tags (pruneAll children)

def pruneAll : List Token → List Token
  | [] => []
  | .node start stop tags children :: ts =>
    if start < stop then prune (.node start stop tags children) :: pruneAll ts else pruneAll ts

end

def withRange (start stop : Nat) : Token → Token
  | .node _ _ tags children => .node start stop tags children

end Token

namespace JavaScript

mutual

/-- Every node as a token, tagged by its kind, its parent's kind, its field and the text. -/
def token (text : List Char) (parent : Option String) : SyntaxNode → Token
  | .node info children =>
    .node info.start info.stop (tag info children.isEmpty parent text).toList (tokenAll text info.kind children)

def tokenAll (text : List Char) (parent : String) : List SyntaxNode → List Token
  | [] => []
  | n :: ns => token text (some parent) n :: tokenAll text parent ns

end

/-! ### The walk -/

namespace Draft
variable {text : List Char} {d : Draft} {n m : SyntaxNode} {later : List SyntaxNode}
  {around : List (SyntaxNode × List SyntaxNode)}

/-- What a walk comes to that leaves the node at the cursor. -/
def resume (text : List Char) (d : Draft) (c : SyntaxCursor) : TokenTree :=
  match d.leave c with
  | (d, some next) => walk text d next
  | (d, none) => d.tokens

theorem resume_sibling (n : SyntaxNode) : resume text d ⟨n, m :: later, around⟩ = walk text d ⟨m, later, around⟩ := by
  rw [resume, leave]
  rfl

theorem resume_parent :
    resume text d ⟨n, [], (m, later) :: around⟩ = resume text d.closeLast ⟨m, later, around⟩ := by
  rw [resume, leave]
  rfl

theorem resume_root : resume text d ⟨n, [], []⟩ = d.tokens := by
  rw [resume, leave]
  rfl

/-- Behind a node it does not matter which it was. -/
theorem resume_eq (n m : SyntaxNode) : resume text d ⟨n, later, around⟩ = resume text d ⟨m, later, around⟩ := by
  rcases later with _ | ⟨s, later⟩
  · rcases around with _ | ⟨⟨p, later⟩, around⟩
    · rw [resume_root, resume_root]
    · rw [resume_parent, resume_parent]
  · rw [resume_sibling, resume_sibling]

/-- A walk that does not go inside the node at the cursor leaves it. -/
theorem walk_leave {d' : Draft} {c : SyntaxCursor} (h : d.visit text c = d'.leave c) :
    walk text d c = resume text d' c := by
  rw [walk, resume, ← h]
  split <;> rename_i heq
  · rw [heq]
  · rw [heq]

theorem walk_inside {d' : Draft} {c next : SyntaxCursor} (h : d.visit text c = (d', some next)) :
    walk text d c = walk text d' next := by
  rw [walk]
  split <;> rename_i heq
  · cases h.symm.trans heq
    rfl
  · cases h.symm.trans heq

section
variable {t : TokenTree} {ancestors : List (Nat × String)} {info : NodeInfo}

theorem visit_childless (h : ancestors.isEmpty || !info.isEmpty) :
    visit text ⟨t, ancestors⟩ ⟨.node info [], later, around⟩ =
      leave ⟨t.extend [(token text (ancestors.head?.map (·.2)) (.node info [])).prune], ancestors⟩
        ⟨.node info [], later, around⟩ := by
  rw [token, tokenAll, Token.prune, Token.pruneAll, ← TokenTree.close_extend, visit]
  exact if_pos h

theorem visit_parent {m : SyntaxNode} {ms : List SyntaxNode} (h : ancestors.isEmpty || !info.isEmpty) :
    visit text ⟨t, ancestors⟩ ⟨.node info (m :: ms), later, around⟩ =
      (⟨t.startNode info.start info.stop (tag info false (ancestors.head?.map (·.2)) text).toList,
        (t.size, info.kind) :: ancestors⟩, some ⟨m, ms, (.node info (m :: ms), later) :: around⟩) := by
  rw [visit]
  exact if_pos h

theorem visit_empty {a : Nat × String} (h : info.isEmpty = true) {ms : List SyntaxNode} :
    visit text ⟨t, a :: ancestors⟩ ⟨.node info ms, later, around⟩ =
      leave ⟨t, a :: ancestors⟩ ⟨.node info ms, later, around⟩ := by
  have hskip : ¬((a :: ancestors).isEmpty || !info.isEmpty) = true := by simp [h]
  rw [visit]
  exact if_neg hskip

end

mutual

theorem walk_node (text : List Char) : ∀ (n : SyntaxNode) (t : TokenTree) (ancestors : List (Nat × String))
    (later : List SyntaxNode) (around : List (SyntaxNode × List SyntaxNode)),
    ancestors.isEmpty || !n.info.isEmpty →
      walk text ⟨t, ancestors⟩ ⟨n, later, around⟩ =
        resume text ⟨t.extend [(token text (ancestors.head?.map (·.2)) n).prune], ancestors⟩ ⟨n, later, around⟩
  | .node info [], t, ancestors, later, around, h => walk_leave (visit_childless h)
  | .node info (m :: ms), t, ancestors, later, around, h => by
    have hkept : ancestors.isEmpty || !info.isEmpty := h
    -- the first child stands as the next sibling of any node around it
    rw [walk_inside (visit_parent hkept), ← resume_sibling (.node info (m :: ms)), resume_siblings text (m :: ms),
      resume_parent]
    have hclose := TokenTree.close_extend t info.start info.stop
      (tag info false (ancestors.head?.map (·.2)) text).toList (Token.pruneAll (tokenAll text info.kind (m :: ms)))
    rw [closeLast, hclose]
    rfl

/-- Where there are open tokens, the nodes behind one are laid out in the innermost. -/
theorem resume_siblings (text : List Char) : ∀ (ns : List SyntaxNode) (x : SyntaxNode) (t : TokenTree)
    (a : Nat × String) (ancestors : List (Nat × String)) (around : List (SyntaxNode × List SyntaxNode)),
      resume text ⟨t, a :: ancestors⟩ ⟨x, ns, around⟩ =
        resume text ⟨t.extend (Token.pruneAll (tokenAll text a.2 ns)), a :: ancestors⟩ ⟨x, [], around⟩
  | [], x, t, a, ancestors, around => rfl
  | .node info ms :: ns, x, t, a, ancestors, around => by
    rw [resume_sibling, tokenAll, token, Token.pruneAll]
    by_cases hlt : info.start < info.stop
    · have hkept : (a :: ancestors).isEmpty || !(SyntaxNode.node info ms).info.isEmpty := by
        simp [SyntaxNode.info, NodeInfo.isEmpty, hlt]
      rw [walk_node text (.node info ms) t (a :: ancestors) ns around hkept, resume_siblings text ns,
        ← TokenTree.extend_append, if_pos hlt, resume_eq x]
      rfl
    · have hempty : info.isEmpty = true := by simp [NodeInfo.isEmpty, hlt]
      rw [walk_leave (visit_empty hempty), resume_siblings text ns, if_neg hlt, resume_eq x]

end

end Draft

end JavaScript

/-! ### Order -/

namespace SyntaxNode

mutual

/-- The node lies in the range, and the nodes in it follow each other there. -/
def Nested (lo hi : Nat) : SyntaxNode → Prop
  | .node info children =>
    lo ≤ info.start ∧ info.start ≤ info.stop ∧ info.stop ≤ hi ∧ NestedAll info.start info.stop children

def NestedAll (lo hi : Nat) : List SyntaxNode → Prop
  | [] => True
  | n :: ns => Nested lo hi n ∧ NestedAll n.info.stop hi ns

end

end SyntaxNode

namespace JavaScript

mutual

theorem nested_prune (text : List Char) {lo hi : Nat} (parent : Option String) :
    ∀ {n : SyntaxNode}, n.Nested lo hi → (token text parent n).prune.Nested lo hi
  | .node info children, ⟨h₁, h₂, h₃, hchildren⟩ => by
    rw [token, Token.prune]
    exact ⟨h₁, h₂, h₃, nestedAll_pruneAll text info.kind hchildren⟩

theorem nestedAll_pruneAll (text : List Char) {lo hi : Nat} (parent : String) :
    ∀ {ns : List SyntaxNode}, SyntaxNode.NestedAll lo hi ns →
      Token.NestedAll lo hi (Token.pruneAll (tokenAll text parent ns))
  | [], _ => trivial
  | .node info children :: ns, ⟨hn, hns⟩ => by
    have hrest := nestedAll_pruneAll text parent hns
    rw [tokenAll, token, Token.pruneAll]
    split
    · exact ⟨nested_prune text (some parent) hn, hrest⟩
    · have hle : lo ≤ info.stop := Nat.le_trans hn.1 hn.2.1
      exact hrest.mono hle (Nat.le_refl _)

end

/-! ### Parsing -/

theorem modifyRoot_encode (t : Token) (start stop : Nat) :
    t.encode.modifyRoot (fun n => { n with start := start, stop := stop }) = (t.withRange start stop).encode := by
  refine TokenTree.eq_of_toList ?_
  cases t with
  | node _ _ tags children =>
    rw [TokenTree.modifyRoot, Array.toList_modify, Token.toList_encode, Token.toList_encode]
    rfl

theorem nested_withRange {lo hi : Nat} {t : Token} (h : t.Nested lo hi) : (t.withRange lo hi).Nested lo hi := by
  cases t with
  | node start stop tags children =>
    obtain ⟨h₁, h₂, h₃, hchildren⟩ := h
    exact ⟨Nat.le_refl _, by omega, Nat.le_refl _, hchildren.mono h₁ h₃⟩

theorem tokenTree_eq (text : List Char) (root : SyntaxNode) :
    tokenTree text root = ((token text none root).prune.withRange 0 (byteLength text)).encode := by
  have hwalk := Draft.walk_node text root .empty [] [] [] rfl
  rw [Draft.resume_root] at hwalk
  rw [tokenTree, SyntaxCursor.root, hwalk]
  show TokenTree.modifyRoot (TokenTree.extend .empty [_]) _ = _
  rw [TokenTree.extend_empty, modifyRoot_encode]
  rfl

/-- Whatever tree the parser gives, its nodes that cover text are laid out in preorder with their tags, the root over
the whole text. What is in order in the tree is in order in the array. -/
theorem parse_pruned {parser : List Char → Option SyntaxNode} {text : List Char} {root : SyntaxNode}
    (h : parser text = some root) : ∃ tree, (Grammar.javaScript parser).parse text = .ok tree ∧
      tree.nodes.toList = ((token text none root).prune.withRange 0 (byteLength text)).nodesAt 0 ∧
      (root.Nested 0 (byteLength text) → tree.Nested 0 (byteLength text)) := by
  refine ⟨tokenTree text root, ?_, ?_, ?_⟩
  · simp only [Grammar.javaScript, h]
  · rw [tokenTree_eq, Token.toList_encode]
  · intro hroot
    have hnested := nested_withRange (nested_prune text none hroot)
    rw [tokenTree_eq]
    exact hnested.encode.mono (Nat.le_refl _) hnested.bounds.2

/-- What stands for ` case 1: `: an error around a number, and an empty statement around a sign that is missing. -/
def strayCase : SyntaxNode :=
  .node ⟨"program", true, 1, 9, none, none⟩ [.node ⟨"labeled_statement", true, 1, 8, none, none⟩
    [.node ⟨"statement_identifier", true, 1, 5, some "label", none⟩ [],
      .node ⟨"ERROR", true, 6, 7, none, some .error⟩ [.node ⟨"number", true, 6, 7, none, none⟩ []],
      .node ⟨":", false, 7, 8, none, none⟩ [],
      .node ⟨"empty_statement", true, 8, 8, some "body", none⟩ [.node ⟨";", false, 8, 8, none, some .missing⟩ []]]]

theorem parse_pruned_strayCase : ∃ tree,
    (Grammar.javaScript fun _ => some strayCase).parse " case 1: ".toList = .ok tree ∧
      tree.nodes.toList = [⟨0, 9, [], 6⟩, ⟨1, 8, [], 6⟩, ⟨1, 5, [{ tag := .labelName }], 3⟩, ⟨6, 7, [], 5⟩,
        ⟨6, 7, [{ tag := .number }], 5⟩, ⟨7, 8, [{ tag := .punctuation }], 6⟩] ∧
      tree.Nested 0 9 := by
  have hlength : byteLength " case 1: ".toList = 9 := by decide
  obtain ⟨tree, hparse, hnodes, hnested⟩ :=
    @parse_pruned (fun _ => some strayCase) " case 1: ".toList strayCase rfl
  rw [hlength] at hnodes hnested
  refine ⟨tree, hparse, ?_, hnested ?_⟩
  · rw [hnodes]
    rfl
  · simp [strayCase, SyntaxNode.Nested, SyntaxNode.NestedAll, SyntaxNode.info]

end JavaScript

end Scriptlet
