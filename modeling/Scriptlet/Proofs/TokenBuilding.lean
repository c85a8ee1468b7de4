import Scriptlet.Proofs.TokenOrder

/-!
# Ways of building a tree of tokens

The array of a tree does not tell how it was built: node by node, each closed behind its children, or out
of arrays of its own for any of its subtrees, or at once from the arrays of its children
(`Token.encode_faithful`). What carries this is `TokenTree.extend`, the array with tokens laid out at its end:
closing a node behind its children lays out the node (`close_extend`), and so does appending its array. An end
is given when its node is closed, counted from the front of the array that holds the node then; appending
counts it anew from the front of the whole.
-/

namespace Scriptlet

namespace TokenTree

/-! ### Putting arrays together -/

/-- Arrays one behind the other. -/
def concat (trees : List TokenTree) : TokenTree := trees.foldl append empty

theorem append_empty (t : TokenTree) : t.append empty = t := by
  refine eq_of_toList ?_
  rw [Token.toList_append]
  exact List.append_nil _

theorem empty_append (t : TokenTree) : empty.append t = t := by
  refine eq_of_toList ?_
  rw [Token.toList_append]
  exact List.map_id _

theorem append_assoc (t u v : TokenTree) : (t.append u).append v = t.append (u.append v) := by
  refine eq_of_toList ?_
  simp only [Token.toList_append, List.map_append, List.map_map, List.append_assoc, Token.size_append]
  congr 2
  refine List.map_congr_left fun n _ => ?_
  simp only [Token.shiftEnd, Function.comp_apply, Nat.add_assoc, Nat.add_comm u.size]

theorem foldl_append (trees : List TokenTree) (t : TokenTree) : trees.foldl append t = t.append (concat trees) := by
  induction trees generalizing t with
  | nil => exact (append_empty t).symm
  | cons u trees ih => rw [concat, List.foldl_cons, List.foldl_cons, ih, ih (empty.append u), empty_append,
      append_assoc]

theorem concat_append (ts us : List TokenTree) : concat (ts ++ us) = (concat ts).append (concat us) := by
  rw [concat, List.foldl_append, foldl_append]
  rfl

theorem concat_singleton (t : TokenTree) : concat [t] = t := empty_append t

/-! ### Tokens at the end of an array -/

/-- The array with tokens laid out at its end. -/
def extend (t : TokenTree) (ts : List Token) : TokenTree :=
  (Token.encodeAll ts).foldl append t

theorem extend_append (t : TokenTree) (ts us : List Token) : t.extend (ts ++ us) = (t.extend ts).extend us := by
  rw [extend, Token.encodeAll_append, List.foldl_append]
  rfl

theorem toList_extend (t : TokenTree) (ts : List Token) :
    (t.extend ts).nodes.toList = t.nodes.toList ++ Token.nodesAllAt t.size ts :=
  Token.toList_foldl_append ts t

theorem size_extend (t : TokenTree) (ts : List Token) : (t.extend ts).size = t.size + Token.sizeAll ts := by
  rw [size, ← Array.length_toList, toList_extend, List.length_append, Token.length_nodesAllAt, Array.length_toList]
  rfl

theorem size_startNode (t : TokenTree) (start stop : Nat) (tags : List StyleTag) :
    (t.startNode start stop tags).size = t.size + 1 := Array.size_push _

theorem modify_append_cons {α : Type} (f : α → α) (as bs : List α) (a : α) :
    (as ++ a :: bs).modify as.length f = as ++ f a :: bs := by
  rw [List.modify_eq_take_drop, List.take_left, List.drop_left, List.modifyHead_cons]

/-- A node that is closed behind its children is laid out with them. -/
theorem close_extend (t : TokenTree) (start stop : Nat) (tags : List StyleTag) (children : List Token) :
    ((t.startNode start stop tags).extend children).close t.size =
      t.extend [.node start stop tags children] := by
  refine eq_of_toList ?_
  have hopen : ((t.startNode start stop tags).extend children).nodes.toList =
      t.nodes.toList ++ ⟨start, stop, tags, t.size + 1⟩ :: Token.nodesAllAt (t.size + 1) children := by
    rw [toList_extend, size_startNode, startNode, Array.toList_push, List.append_assoc]
    rfl
  have hend : ((t.startNode start stop tags).extend children).size = t.size + (1 + Token.sizeAll children) := by
    rw [size_extend, size_startNode, Nat.add_assoc]
  rw [close, Array.toList_modify, hopen, hend, size, ← Array.length_toList, modify_append_cons, toList_extend]
  simp only [Token.nodesAllAt, Token.nodesAt, List.append_nil, size, Array.length_toList]

/-- A tree that is built by itself and appended is laid out as it would be in place. -/
theorem append_extend (t : TokenTree) (ts : List Token) : t.append (empty.extend ts) = t.extend ts :=
  (foldl_append (Token.encodeAll ts) t).symm

theorem extend_empty (t : Token) : empty.extend [t] = t.encode := by
  refine eq_of_toList ?_
  rw [toList_extend, Token.toList_encode]
  exact List.append_nil _

end TokenTree

/-! ### Plans -/

/-- A way of building a token at the end of an array. -/
inductive TokenPlan where
  /-- A node that is opened, filled and closed. -/
  | bracketed (start stop : Nat) (tags : List StyleTag) (children : List TokenPlan)
  /-- An array of its own that is appended. -/
  | appended (plan : TokenPlan)
  /-- A leaf that is appended. -/
  | leaf (start stop : Nat) (tags : List StyleTag)
  /-- A branch that is made of the arrays of its children and appended. -/
  | branch (start stop : Nat) (tags : List StyleTag) (children : List TokenPlan)

namespace TokenPlan

mutual

/-- What the plan is for. -/
def token : TokenPlan → Token
  | bracketed start stop tags children => .node start stop tags (tokens children)
  | appended plan => plan.token
  | leaf start stop tags => .node start stop tags []
  | branch start stop tags children => .node start stop tags (tokens children)

def tokens : List TokenPlan → List Token
  | [] => []
  | p :: ps => p.token :: tokens ps

end

mutual

/-- The array with the token built at its end. -/
def addTo (t : TokenTree) : TokenPlan → TokenTree
  | bracketed start stop tags children => (addAllTo (t.startNode start stop tags) children).close t.size
  | appended plan => t.append (plan.addTo .empty)
  | leaf start stop tags => t.append (.leaf start stop tags)
  | branch start stop tags children => t.append (.branch start stop tags (arrays children))

/-- The array with the tokens built at its end, one behind the other. -/
def addAllTo (t : TokenTree) : List TokenPlan → TokenTree
  | [] => t
  | p :: ps => addAllTo (p.addTo t) ps

/-- An array for each token. -/
def arrays : List TokenPlan → List TokenTree
  | [] => []
  | p :: ps => p.addTo .empty :: arrays ps

end

mutual

/-- Whatever the plan, the token is laid out. -/
theorem addTo_eq : ∀ (plan : TokenPlan) (t : TokenTree), plan.addTo t = t.extend [plan.token]
  | bracketed start stop tags children, t => by
    rw [addTo, token, addAllTo_eq children, TokenTree.close_extend]
  | appended plan, t => by
    rw [addTo, token, addTo_eq plan, TokenTree.append_extend]
  | leaf start stop tags, t => rfl
  | branch start stop tags children, t => by
    rw [addTo, token, arrays_eq children]
    rfl

theorem addAllTo_eq : ∀ (plans : List TokenPlan) (t : TokenTree), addAllTo t plans = t.extend (tokens plans)
  | [], t => rfl
  | p :: ps, t => by
    rw [addAllTo, tokens, addTo_eq p, addAllTo_eq ps, ← TokenTree.extend_append]
    rfl

theorem arrays_eq : ∀ plans : List TokenPlan, arrays plans = Token.encodeAll (tokens plans)
  | [] => rfl
  | p :: ps => by
    rw [arrays, tokens, addTo_eq p, arrays_eq ps, TokenTree.extend_empty]
    rfl

end

end TokenPlan

namespace Token

/-- The array of a tree is the same whatever way it was built, is read back as the tree, and goes to the right
with the tree. -/
theorem encode_faithful (t : Token) :
    (∀ plan : TokenPlan, plan.token = t → plan.addTo .empty = t.encode) ∧
      t.encode.token? = some t ∧ ∀ n, t.encode.shift n = (t.shift n).encode := by
  refine ⟨?_, token?_encode t, fun n => encode_shift n t⟩
  rintro plan rfl
  rw [plan.addTo_eq, TokenTree.extend_empty]

/-- Two leaves around a subtree that is built by itself, with a branch in it. -/
def mixedPlan : TokenPlan :=
  .bracketed 0 9 [] [.leaf 0 2 [{ tag := .metadata }],
    .appended (.bracketed 2 7 [{ tag := .string }] [.branch 3 5 [] [.leaf 3 4 [], .bracketed 4 5 [] []]]),
    .bracketed 7 9 [{ tag := .metadata }] []]

theorem encode_faithful_mixed : ∃ t : Token, mixedPlan.token = t ∧
    t.encode.nodes.toList.map (·.subtreeEnd) = [7, 2, 6, 6, 5, 6, 7] ∧
    mixedPlan.addTo .empty = t.encode ∧ t.encode.token? = some t ∧ t.encode.shift 3 = (t.shift 3).encode := by
  obtain ⟨hplans, hread, hshift⟩ := encode_faithful mixedPlan.token
  have hends : mixedPlan.token.encode.nodes.toList.map (·.subtreeEnd) = [7, 2, 6, 6, 5, 6, 7] := by
    rw [toList_encode]
    rfl
  exact ⟨mixedPlan.token, rfl, hends, hplans mixedPlan rfl, hread, hshift 3⟩

end Token

end Scriptlet
