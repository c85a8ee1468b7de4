import Scriptlet.Proofs.SpanClasses

/-!
# Tokens in order

A tree is `Nested` in a range if its tokens follow each other and each lies in its parent. The clamps of
the highlighter then change nothing, and the tokens around a character are those that hold it
(`classOf_eq`). Unlike extents, which depend on what comes before, this is said of each token alone, so
it goes through moving a tree (`holding_shift`) and through putting trees side by side
(`holdingAny_append`).
-/

namespace Scriptlet
open Text (Boundary byteLength byteOffset)
open Segment (clamp)

theorem Segment.clamp_of_mem {lo hi n : Nat} (h : lo ≤ n) (h' : n ≤ hi) : clamp lo hi n = n := by
  unfold clamp
  omega

theorem TokenTree.eq_of_toList {t u : TokenTree} (h : t.nodes.toList = u.nodes.toList) : t = u := by
  cases t
  cases u
  simpa using h

namespace Token

/-- The byte behind the token. -/
def stop : Token → Nat
  | .node _ stop _ _ => stop

/-! ### Nesting -/

mutual

/-- The token lies in the range, and what is in it follows each other there. -/
def Nested (lo hi : Nat) : Token → Prop
  | .node start stop _ children => lo ≤ start ∧ start ≤ stop ∧ stop ≤ hi ∧ NestedAll start stop children

def NestedAll (lo hi : Nat) : List Token → Prop
  | [] => True
  | t :: ts => Nested lo hi t ∧ NestedAll t.stop hi ts

end

section
variable {lo hi lo' hi' mid : Nat} {t : Token} {ts us : List Token}

theorem Nested.mono (hlo : lo' ≤ lo) (hhi : hi ≤ hi') (h : t.Nested lo hi) : t.Nested lo' hi' := by
  cases t with
  | node start stop tags children =>
    obtain ⟨h₁, h₂, h₃, hc⟩ := h
    exact ⟨by omega, h₂, by omega, hc⟩

theorem Nested.bounds (h : t.Nested lo hi) : lo ≤ t.stop ∧ t.stop ≤ hi := by
  cases t with
  | node start stop tags children =>
    obtain ⟨h₁, h₂, h₃, -⟩ := h
    simp only [Token.stop]
    omega

theorem NestedAll.mono (hlo : lo' ≤ lo) (hhi : hi ≤ hi') (h : NestedAll lo hi ts) : NestedAll lo' hi' ts := by
  induction ts generalizing lo lo' with
  | nil => trivial
  | cons t ts ih => exact ⟨h.1.mono hlo hhi, ih (Nat.le_refl _) h.2⟩

theorem NestedAll.append (hmid : lo ≤ mid) (hhi : mid ≤ hi) (h : NestedAll lo mid ts) (h' : NestedAll mid hi us) :
    NestedAll lo hi (ts ++ us) := by
  induction ts generalizing lo with
  | nil => exact h'.mono hmid (Nat.le_refl _)
  | cons t ts ih => exact ⟨h.1.mono (Nat.le_refl _) hhi, ih h.1.bounds.2 h.2⟩

end

/-! ### The tokens that hold a character -/

mutual

/-- The tags of the tokens that hold the bytes from `a` to `b`, outermost first. -/
def holding (a b : Nat) : Token → List (List StyleTag)
  | .node start stop tags children => if start ≤ a ∧ b ≤ stop then tags :: holdingAny a b children else []

def holdingAny (a b : Nat) : List Token → List (List StyleTag)
  | [] => []
  | t :: ts => holding a b t ++ holdingAny a b ts

end

section
variable {a b lo hi : Nat} {t : Token}

theorem holdingAny_append (ts us : List Token) :
    holdingAny a b (ts ++ us) = holdingAny a b ts ++ holdingAny a b us := by
  induction ts with
  | nil => rfl
  | cons t ts ih => simp only [List.cons_append, holdingAny, ih, List.append_assoc]

theorem holding_of_outside (h : t.Nested lo hi) (hab : a < b) (hout : b ≤ lo ∨ hi ≤ a) : holding a b t = [] := by
  cases t with
  | node start stop tags children =>
    obtain ⟨h₁, h₂, h₃, -⟩ := h
    exact if_neg (by omega)

theorem holdingAny_of_outside {ts : List Token} (h : NestedAll lo hi ts) (hab : a < b) (hout : b ≤ lo ∨ hi ≤ a) :
    holdingAny a b ts = [] := by
  induction ts generalizing lo with
  | nil => rfl
  | cons t ts ih =>
    have hin := h.1.bounds
    rw [holdingAny, holding_of_outside h.1 hab hout, ih h.2 (by omega)]
    rfl

theorem aroundAny_eq_holdingAny : ∀ (ts : List Token) (lo hi : Nat), NestedAll lo hi ts →
    aroundAny a b lo hi ts = holdingAny a b ts
  | [], _, _, _ => rfl
  | .node first last tags children :: rest, lo, hi, ⟨⟨h₁, h₂, h₃, hchildren⟩, hrest⟩ => by
    have hfirst : clamp lo hi first = first := Segment.clamp_of_mem h₁ (by omega)
    have hlast : clamp first hi last = last := Segment.clamp_of_mem h₂ h₃
    simp only [aroundAny, around, hfirst, hlast, holdingAny, holding]
    rw [aroundAny_eq_holdingAny children first last hchildren, aroundAny_eq_holdingAny rest last hi hrest]

/-- In a tree in order, a character has the class of the innermost token that holds it and has one. -/
theorem classOf_eq {text : List Char} (styles : StyleTable) (h : t.Nested 0 (byteLength text)) (i : Nat) :
    t.classOf styles text i =
      (holding (byteOffset text i) (byteOffset text (i + 1)) t).reverse.findSome? styles.resolve := by
  cases t with
  | node first last tags children =>
    obtain ⟨-, h₂, h₃, hchildren⟩ := h
    have hfirst : min first (byteLength text) = first := by omega
    have hlast : clamp first (byteLength text) last = last := Segment.clamp_of_mem h₂ h₃
    simp only [classOf, classAt, around, hfirst, hlast, holding]
    rw [aroundAny_eq_holdingAny children first last hchildren]

theorem spansOf_encode (t : Token) (styles : StyleTable) (text : List Char) (h : t.WholeEnds text) :
    spansOf styles text t.encode = Span.runLength (t.classes styles text) :=
  (t.draws_cover styles text h).spans_runs.1

end

/-! ### Moving a tree -/

mutual

/-- The tree with every range moved to the right. -/
def shift (n : Nat) : Token → Token
  | .node start stop tags children => .node (start + n) (stop + n) tags (shiftAll n children)

def shiftAll (n : Nat) : List Token → List Token
  | [] => []
  | t :: ts => t.shift n :: shiftAll n ts

end

theorem stop_shift (n : Nat) (t : Token) : (t.shift n).stop = t.stop + n := by
  cases t
  rfl

mutual

theorem size_shift (n : Nat) : ∀ t : Token, (t.shift n).size = t.size
  | .node _ _ _ children => by simp only [shift, size, sizeAll_shiftAll n children]

theorem sizeAll_shiftAll (n : Nat) : ∀ ts : List Token, sizeAll (shiftAll n ts) = sizeAll ts
  | [] => rfl
  | t :: ts => by simp only [shiftAll, sizeAll, size_shift n t, sizeAll_shiftAll n ts]

end

/-- Moves the range of a node. -/
def shiftRange (n : Nat) (node : TokenNode) : TokenNode :=
  { node with start := node.start + n, stop := node.stop + n }

mutual

theorem nodesAt_shiftRange (i n : Nat) : ∀ t : Token, nodesAt i (t.shift n) = (nodesAt i t).map (shiftRange n)
  | .node _ _ _ children => by
    simp only [shift, nodesAt, List.map_cons, shiftRange, sizeAll_shiftAll, nodesAllAt_shiftRange (i + 1) n children]

theorem nodesAllAt_shiftRange (i n : Nat) :
    ∀ ts : List Token, nodesAllAt i (shiftAll n ts) = (nodesAllAt i ts).map (shiftRange n)
  | [] => rfl
  | t :: ts => by
    simp only [shiftAll, nodesAllAt, List.map_append, nodesAt_shiftRange i n t, size_shift,
      nodesAllAt_shiftRange _ n ts]

end

/-- The array of a moved tree is the moved array. -/
theorem encode_shift (n : Nat) (t : Token) : t.encode.shift n = (t.shift n).encode := by
  refine TokenTree.eq_of_toList ?_
  rw [toList_encode, nodesAt_shiftRange, ← toList_encode, TokenTree.shift, Array.toList_map]
  rfl

mutual

theorem holding_shift (n a b : Nat) : ∀ t : Token, holding (a + n) (b + n) (t.shift n) = holding a b t
  | .node start stop tags children => by
    simp only [shift, holding, Nat.add_le_add_iff_right, holdingAny_shift n a b children]

theorem holdingAny_shift (n a b : Nat) :
    ∀ ts : List Token, holdingAny (a + n) (b + n) (shiftAll n ts) = holdingAny a b ts
  | [] => rfl
  | t :: ts => by simp only [shiftAll, holdingAny, holding_shift n a b t, holdingAny_shift n a b ts]

end

mutual

theorem Nested.shift (n : Nat) {lo hi : Nat} :
    ∀ {t : Token}, t.Nested lo hi → (t.shift n).Nested (lo + n) (hi + n)
  | .node _ _ _ _, ⟨h₁, h₂, h₃, hchildren⟩ =>
    ⟨Nat.add_le_add_right h₁ n, Nat.add_le_add_right h₂ n, Nat.add_le_add_right h₃ n, hchildren.shift n⟩

theorem NestedAll.shift (n : Nat) {lo hi : Nat} :
    ∀ {ts : List Token}, NestedAll lo hi ts → NestedAll (lo + n) (hi + n) (shiftAll n ts)
  | [], _ => trivial
  | t :: _, ⟨ht, hts⟩ => ⟨ht.shift n, by rw [stop_shift]; exact hts.shift n⟩

end

/-! ### Well-formed trees -/

/-- A tree in order over a text, with no end inside a character. -/
structure WellFormed (text : List Char) (t : Token) : Prop where
  nested : t.Nested 0 (byteLength text)
  whole : t.WholeEnds text

/-- Trees in order side by side over a text, with no end inside a character. -/
structure WellFormedAll (text : List Char) (ts : List Token) : Prop where
  nested : NestedAll 0 (byteLength text) ts
  whole : WholeEndsAll text ts

section
variable {u v w : List Char}

theorem Whole.shift {n : Nat} (h : Whole v n) (hn : n ≤ byteLength v) :
    Whole (u ++ v ++ w) (n + byteLength u) := by
  refine .inl ?_
  rcases h with ⟨i, hi, rfl⟩ | h
  · refine ⟨u.length + i, by simp only [List.length_append]; omega, ?_⟩
    rw [List.append_assoc, Text.byteOffset_append_right, Text.byteOffset_append_left hi, Nat.add_comm]
  · omega

theorem wholeEndsAll_append {ts us : List Token} (h : WholeEndsAll u ts) (h' : WholeEndsAll u us) :
    WholeEndsAll u (ts ++ us) := by
  induction ts with
  | nil => exact h'
  | cons t ts ih => exact ⟨h.1, ih h.2⟩

theorem wholeEndsAll_shiftAll : ∀ (ts : List Token) (lo : Nat), NestedAll lo (byteLength v) ts →
    WholeEndsAll v ts → WholeEndsAll (u ++ v ++ w) (shiftAll (byteLength u) ts)
  | [], _, _, _ => trivial
  | .node start stop tags children :: rest, lo, ⟨⟨_, h₂, h₃, hchildren⟩, hrest⟩, ⟨⟨hstart, hstop, hwhole⟩, hwholes⟩ =>
    ⟨⟨hstart.shift (by omega), hstop.shift h₃,
        wholeEndsAll_shiftAll children start (hchildren.mono (Nat.le_refl _) h₃) hwhole⟩,
      wholeEndsAll_shiftAll rest stop hrest hwholes⟩

end

end Token

/-- The array of a well-formed tree over the text. -/
def TokenTree.WellFormed (text : List Char) (tree : TokenTree) : Prop :=
  ∃ t : Token, tree = t.encode ∧ t.WellFormed text

/-- A grammar whose trees are all well formed over their texts. -/
def Grammar.WellFormed (g : Grammar) : Prop :=
  ∀ text tree, g.parse text = .ok tree → tree.WellFormed text

end Scriptlet
