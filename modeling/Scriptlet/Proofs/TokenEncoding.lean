import Scriptlet.Token.Basic

/-!
# Tokens as an array in preorder

`Token.encode` lays a tree of tokens out by `branch`. `nodesAt i` is the same layout said at once, for a
tree whose root has index `i`, so that what is appended is shifted (`nodesAt_shift`) and every subtree
is a stretch of the array. Reading such a stretch gives the tokens back (`tokensFrom_nodesAllAt`), whatever
stands around it.
-/

namespace Scriptlet

theorem TokenTree.leaf_eq_branch (start stop : Nat) (tags : List StyleTag) :
    TokenTree.leaf start stop tags = .branch start stop tags [] := rfl

namespace Token

mutual

/-- The number of tokens in a tree. -/
def size : Token → Nat
  | .node _ _ _ children => 1 + sizeAll children

def sizeAll : List Token → Nat
  | [] => 0
  | t :: ts => t.size + sizeAll ts

end

mutual

/-- The array of a tree. A token without children is a leaf (`TokenTree.leaf_eq_branch`). -/
def encode : Token → TokenTree
  | .node start stop tags children => .branch start stop tags (encodeAll children)

def encodeAll : List Token → List TokenTree
  | [] => []
  | t :: ts => t.encode :: encodeAll ts

end

theorem encodeAll_append (ts us : List Token) : encodeAll (ts ++ us) = encodeAll ts ++ encodeAll us := by
  induction ts with
  | nil => rfl
  | cons t ts ih => simp only [List.cons_append, encodeAll, ih]

mutual

/-- The nodes of a tree whose root has the index `i`. -/
def nodesAt (i : Nat) : Token → List TokenNode
  | .node start stop tags children =>
    ⟨start, stop, tags, i + (1 + sizeAll children)⟩ :: nodesAllAt (i + 1) children

def nodesAllAt (i : Nat) : List Token → List TokenNode
  | [] => []
  | t :: ts => nodesAt i t ++ nodesAllAt (i + t.size) ts

end

mutual

theorem length_nodesAt (i : Nat) : ∀ t : Token, (nodesAt i t).length = t.size
  | .node _ _ _ children => by
    simp only [nodesAt, size, List.length_cons, length_nodesAllAt (i + 1) children]; omega

theorem length_nodesAllAt (i : Nat) : ∀ ts : List Token, (nodesAllAt i ts).length = sizeAll ts
  | [] => rfl
  | t :: ts => by
    simp only [nodesAllAt, sizeAll, List.length_append, length_nodesAt i t, length_nodesAllAt _ ts]

end

/-- Moves the end of a subtree. -/
def shiftEnd (n : Nat) (node : TokenNode) : TokenNode := { node with subtreeEnd := node.subtreeEnd + n }

mutual

theorem nodesAt_shift (i n : Nat) : ∀ t : Token, (nodesAt i t).map (shiftEnd n) = nodesAt (i + n) t
  | .node start stop tags children => by
    have ih := nodesAllAt_shift (i + 1) n children
    simp only [nodesAt, List.map_cons, ih, shiftEnd, Nat.add_right_comm i n 1,
      Nat.add_right_comm i n (1 + sizeAll children)]

theorem nodesAllAt_shift (i n : Nat) :
    ∀ ts : List Token, (nodesAllAt i ts).map (shiftEnd n) = nodesAllAt (i + n) ts
  | [] => rfl
  | t :: ts => by
    simp only [nodesAllAt, List.map_append, nodesAt_shift i n t, nodesAllAt_shift _ n ts,
      Nat.add_right_comm i n t.size]

end

/-! ### The layout -/

theorem toList_append (t other : TokenTree) :
    (t.append other).nodes.toList = t.nodes.toList ++ other.nodes.toList.map (shiftEnd t.size) := by
  simp only [TokenTree.append, Array.toList_append, Array.toList_map]
  rfl

theorem size_append (t other : TokenTree) : (t.append other).size = t.size + other.size := by
  simp [TokenTree.append, TokenTree.size]

mutual

theorem toList_encode : ∀ t : Token, t.encode.nodes.toList = nodesAt 0 t
  | .node start stop tags children => by
    have hfold := toList_foldl_append children (TokenTree.empty.startNode start stop tags)
    have hsize : ((encodeAll children).foldl TokenTree.append
        (TokenTree.empty.startNode start stop tags)).size = 1 + sizeAll children := by
      rw [TokenTree.size, ← Array.length_toList, hfold, List.length_append, length_nodesAllAt]
      rfl
    simp only [encode, TokenTree.branch, TokenTree.close, Array.toList_modify, hfold, hsize, nodesAt,
      Nat.zero_add]
    rfl

theorem toList_foldl_append : ∀ (ts : List Token) (t : TokenTree),
    ((encodeAll ts).foldl TokenTree.append t).nodes.toList = t.nodes.toList ++ nodesAllAt t.size ts
  | [], t => by simp [encodeAll, nodesAllAt]
  | u :: us, t => by
    have hu := toList_encode u
    have hsize : u.encode.size = u.size := by
      rw [TokenTree.size, ← Array.length_toList, hu, length_nodesAt]
    rw [encodeAll, List.foldl_cons, toList_foldl_append us, toList_append, hu, nodesAt_shift, size_append,
      hsize, Nat.zero_add, nodesAllAt, List.append_assoc]

end

/-! ### Reading -/

/-- A stretch of the array that is laid out for some tokens is read as these. -/
theorem tokensFrom_nodesAllAt (nodes : Array TokenNode) : ∀ (ts : List Token) (i : Nat)
    (pre post : List TokenNode), pre.length = i → nodes.toList = pre ++ nodesAllAt i ts ++ post →
      TokenTree.tokensFrom nodes i (i + sizeAll ts) = ts
  | [], i, pre, post, _, _ => by
    rw [TokenTree.tokensFrom, dif_neg (by simp [sizeAll])]
  | .node start stop tags children :: rest, i, pre, post, hi, h => by
    have hstop : i + 1 + sizeAll children = i + (1 + sizeAll children) := by omega
    simp only [nodesAllAt, nodesAt, size, List.cons_append, List.append_assoc] at h
    have hlt : i < nodes.size := by
      rw [← Array.length_toList, h]; simp [hi]
    have hget : nodes[i] = ⟨start, stop, tags, i + (1 + sizeAll children)⟩ := by
      rw [← Array.getElem_toList]; simp [h, ← hi]
    have hchildren := tokensFrom_nodesAllAt nodes children (i + 1)
      (pre ++ [⟨start, stop, tags, i + (1 + sizeAll children)⟩])
      (nodesAllAt (i + (1 + sizeAll children)) rest ++ post) (by simp [hi]) (by simp [h])
    have hrest := tokensFrom_nodesAllAt nodes rest (i + (1 + sizeAll children))
      (pre ++ ⟨start, stop, tags, i + (1 + sizeAll children)⟩ :: nodesAllAt (i + 1) children) post
      (by simp [length_nodesAllAt, hi, Nat.add_comm 1]) (by simp [h])
    rw [hstop] at hchildren
    have hsum : i + (1 + sizeAll children) + sizeAll rest
        = i + sizeAll (.node start stop tags children :: rest) := by simp only [sizeAll, size]; omega
    rw [hsum] at hrest
    have hnext : max (i + (1 + sizeAll children)) (i + 1) = i + (1 + sizeAll children) := by omega
    rw [TokenTree.tokensFrom, dif_pos ⟨by simp only [sizeAll, size]; omega, hlt⟩]
    simp only [hget, hchildren, hnext, hrest]

/-- The array of a tree is read as the tree. -/
theorem token?_encode (t : Token) : t.encode.token? = some t := by
  cases t with
  | node start stop tags children =>
    have hnodes := toList_encode (.node start stop tags children)
    simp only [nodesAt, Nat.zero_add] at hnodes
    have hroot : (encode (.node start stop tags children)).root?
        = some ⟨start, stop, tags, 1 + sizeAll children⟩ := by
      rw [TokenTree.root?, ← Array.getElem?_toList, hnodes]; rfl
    have hread := tokensFrom_nodesAllAt (encode (.node start stop tags children)).nodes children 1
      [⟨start, stop, tags, 1 + sizeAll children⟩] [] rfl (by simp [hnodes])
    rw [TokenTree.token?, hroot]
    simp only [Option.map_some, hread]

end Token

end Scriptlet
