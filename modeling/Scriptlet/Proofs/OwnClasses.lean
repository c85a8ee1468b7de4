import Scriptlet.Proofs.MarkedChars
import Scriptlet.Proofs.TokenOrder

/-!
# Which class a token's own characters show

In a tree in order, the characters that a token holds and none of the tokens in it does show the class in effect in
the token (`Lies.classOf`): that of its tags, or if they have none, the class in effect around it. Only a token
without tags should look around itself. One whose tags have no class does so too, which is to be seen just where a
class is in effect around it (`highlight_own_class`).
-/

namespace Scriptlet
open Text (byteLength byteOffset)

namespace Token

/-- The tags of the token itself. -/
def tags : Token → List StyleTag
  | .node _ _ tags _ => tags

/-- The tokens right inside. -/
def children : Token → List Token
  | .node _ _ _ children => children

/-- The token holds the bytes from `a` to `b`. -/
def Holds (a b : Nat) : Token → Prop
  | .node start stop _ _ => start ≤ a ∧ b ≤ stop

/-- The token `n` is in the tree `t`, inside the tokens `around`, which are listed from the inside out. -/
inductive Lies (t : Token) : List Token → Token → Prop
  | root : Lies t [] t
  | child {around : List Token} {n c : Token} (h : Lies t around n) (hc : c ∈ n.children) : Lies t (n :: around) c

/-- The token holds the character of the given number, and no token in it does. -/
structure Owns (text : List Char) (n : Token) (i : Nat) : Prop where
  lt : i < text.length
  holds : n.Holds (byteOffset text i) (byteOffset text (i + 1))
  alone : ∀ c ∈ n.children, ¬c.Holds (byteOffset text i) (byteOffset text (i + 1))

/-! ### The tokens around a token -/

section
variable {a b lo hi : Nat} {t n c : Token} {around ts : List Token}

theorem holding_of_holds (h : n.Holds a b) : holding a b n = n.tags :: holdingAny a b n.children := by
  cases n with
  | node start stop tags children => exact if_pos h

theorem holding_of_not_holds (h : ¬n.Holds a b) : holding a b n = [] := by
  cases n with
  | node start stop tags children => exact if_neg h

theorem Nested.holds_bounds (hn : n.Nested lo hi) (h : n.Holds a b) : lo ≤ a ∧ b ≤ n.stop := by
  cases n with
  | node start stop tags children =>
    have := hn.1
    exact ⟨Nat.le_trans this h.1, h.2⟩

theorem NestedAll.of_mem (h : NestedAll lo hi ts) (hc : c ∈ ts) : c.Nested lo hi := by
  induction ts generalizing lo with
  | nil => cases hc
  | cons t ts ih =>
    rcases List.mem_cons.1 hc with rfl | hc
    · exact h.1
    · exact (ih h.2 hc).mono h.1.bounds.1 (Nat.le_refl _)

/-- Tokens side by side do not hold the same bytes. -/
theorem holdingAny_of_mem (h : NestedAll lo hi ts) (hc : c ∈ ts) (hab : a < b) (hholds : c.Holds a b) :
    holdingAny a b ts = holding a b c := by
  induction ts generalizing lo with
  | nil => cases hc
  | cons t ts ih =>
    rw [holdingAny]
    rcases List.mem_cons.1 hc with rfl | hc
    · have := h.1.holds_bounds hholds
      rw [holdingAny_of_outside h.2 hab (.inl this.2), List.append_nil]
    · have hbehind := (h.2.of_mem hc).holds_bounds hholds
      have hnot : ¬t.Holds a b := fun ht => by
        have := h.1.holds_bounds ht
        omega
      rw [holding_of_not_holds hnot, List.nil_append, ih h.2 hc]

theorem holdingAny_of_not_holds (h : ∀ c ∈ ts, ¬c.Holds a b) : holdingAny a b ts = [] := by
  induction ts with
  | nil => rfl
  | cons t ts ih =>
    rw [holdingAny, holding_of_not_holds (h t (List.mem_cons_self ..)),
      ih fun c hc => h c (List.mem_cons_of_mem t hc)]
    rfl

theorem Nested.children (h : n.Nested lo hi) (hc : c ∈ n.children) : c.Nested lo hi := by
  cases n with
  | node start stop tags children =>
    obtain ⟨hlo, -, hhi, hchildren⟩ := h
    exact (hchildren.of_mem hc).mono hlo hhi

/-- A token holds what the tokens in it do. -/
theorem Nested.holds_of_child (h : n.Nested lo hi) (hc : c ∈ n.children) (hholds : c.Holds a b) : n.Holds a b := by
  cases n with
  | node start stop tags children =>
    have hnested := h.2.2.2.of_mem hc
    have hin := hnested.holds_bounds hholds
    exact ⟨hin.1, Nat.le_trans hin.2 hnested.bounds.2⟩

theorem Lies.nested (h : t.Lies around n) (ht : t.Nested lo hi) : n.Nested lo hi := by
  induction h with
  | root => exact ht
  | child _ hc ih => exact ih.children hc

/-- The tokens that hold what a token holds are those around it, and then those in it. -/
theorem Lies.holding (h : t.Lies around n) (ht : t.Nested lo hi) (hab : a < b) (hn : n.Holds a b) :
    holding a b t = (around.map tags).reverse ++ Token.holding a b n := by
  induction h with
  | root => rfl
  | @child around m c h hc ih =>
    have hm := h.nested ht
    have hholds := hm.holds_of_child hc hn
    have hchild : holdingAny a b m.children = Token.holding a b c := by
      cases m with
      | node start stop tags children => exact holdingAny_of_mem hm.2.2.2 hc hab hn
    rw [ih hholds, holding_of_holds hholds, hchild, List.map_cons, List.reverse_cons, List.append_assoc]
    rfl

end

/-- The class in effect in the innermost of the tokens, which are listed from the inside out: that of the first with
tags that have one. -/
def classIn (styles : StyleTable) (ns : List Token) : Option String :=
  ns.findSome? fun n => styles.resolve n.tags

theorem classIn_cons (styles : StyleTable) (n : Token) (around : List Token) :
    classIn styles (n :: around) = (styles.resolve n.tags).or (classIn styles around) := by
  rw [classIn, List.findSome?_cons]
  cases styles.resolve n.tags <;> rfl

/-- A character shows the class in effect in its own token. -/
theorem Lies.classOf {text : List Char} {t n : Token} {around : List Token} {i : Nat} (h : t.Lies around n)
    (styles : StyleTable) (ht : t.Nested 0 (byteLength text)) (hn : n.Owns text i) :
    t.classOf styles text i = classIn styles (n :: around) := by
  rw [classOf_eq styles ht, h.holding ht (Text.byteOffset_lt_succ hn.lt) hn.holds, holding_of_holds hn.holds,
    holdingAny_of_not_holds hn.alone, List.reverse_append, List.reverse_reverse, List.reverse_singleton,
    List.singleton_append, ← List.map_cons, List.findSome?_map]
  rfl

end Token

open Token in
/-- Over the characters that a token holds and no token in it does, the spans show the class in effect in the token.
Without tags that is the class in effect around it. With tags it is their class if they have one, or if no class is
in effect around the token, and only then. -/
theorem highlight_own_class (g : Grammar) (styles : StyleTable) (text : List Char) (t : Token)
    (hparse : g.parse text = .ok t.encode) (ht : t.WellFormed text) :
    ∃ spans, (highlight g styles text).1 = .ok spans ∧ Span.Tiles 0 text.length spans ∧
      ∀ around n i, t.Lies around n → n.Owns text i → ∀ s ∈ spans, s.start ≤ i → i < s.stop →
        s.cls = classIn styles (n :: around) ∧
          (n.tags = [] → s.cls = classIn styles around) ∧
          (n.tags ≠ [] →
            (s.cls = styles.resolve n.tags ↔ styles.resolve n.tags ≠ none ∨ classIn styles around = none)) := by
  refine ⟨_, highlight_of_parse styles hparse, tiling_spansOf styles text t.encode, ?_⟩
  rw [spansOf_encode t styles text ht.whole]
  intro around n i hlies howns s hs hstart hstop
  have hclass : s.cls = classIn styles (n :: around) := by
    have hshows := Span.shows_runLength _ s hs i (by omega) (by omega)
    rw [classes, List.getElem?_map, List.getElem?_range howns.lt, Option.map_some, Option.some.injEq,
      hlies.classOf styles ht.nested howns] at hshows
    exact hshows.symm
  refine ⟨hclass, fun htags => ?_, fun _ => ?_⟩
  · rw [hclass, classIn_cons, htags]
    rfl
  · rw [hclass, classIn_cons]
    cases styles.resolve n.tags with
    | some cls => simp
    | none => simp

/-- A property name, which has no class in the standard table. -/
def nameToken : Token := .node 1 2 [{ tag := .propertyName }] []

/-- It is in the middle of a string. -/
def nameInString : Token := .node 0 3 [{ tag := .string }] [nameToken]

theorem wellFormed_nameInString : nameInString.WellFormed ['a', 'b', 'c'] where
  nested := ⟨Nat.le_refl 0, by decide, by decide, ⟨by decide, by decide, by decide, trivial⟩, trivial⟩
  whole := ⟨.inl ⟨0, by decide, rfl⟩, .inl ⟨3, by decide, rfl⟩,
    ⟨.inl ⟨1, by decide, rfl⟩, .inl ⟨2, by decide, rfl⟩, trivial⟩, trivial⟩

theorem owns_nameInString : nameInString.Owns ['a', 'b', 'c'] 2 where
  lt := by decide
  holds := ⟨by decide, by decide⟩
  alone c hc := by
    cases List.mem_singleton.1 hc
    rintro ⟨-, hstop⟩
    revert hstop
    decide

theorem highlight_own_class_nameInString :
    (Grammar.fixed nameInString.encode).parse ['a', 'b', 'c'] = .ok nameInString.encode ∧
      nameInString.WellFormed ['a', 'b', 'c'] ∧ nameInString.Lies [] nameInString ∧
      nameInString.Owns ['a', 'b', 'c'] 2 ∧
      ∃ spans, (highlight (.fixed nameInString.encode) .standard ['a', 'b', 'c']).1 = .ok spans ∧
        Span.Tiles 0 3 spans ∧ ∀ s ∈ spans, s.start ≤ 2 → 2 < s.stop →
          s.cls = StyleTable.standard.resolve nameInString.tags := by
  obtain ⟨spans, hspans, htiles, hshown⟩ :=
    highlight_own_class (.fixed nameInString.encode) .standard _ nameInString rfl wellFormed_nameInString
  refine ⟨rfl, wellFormed_nameInString, .root, owns_nameInString, spans, hspans, htiles, fun s hs h₁ h₂ => ?_⟩
  have htagged := (hshown [] nameInString 2 .root owns_nameInString s hs h₁ h₂).2.2 (List.cons_ne_nil _ _)
  exact htagged.2 (.inr rfl)

/-- The name has a tag, its tag has no class, and still its character has the class of the string. -/
theorem highlight_nameInString :
    nameInString.WellFormed ['a', 'b', 'c'] ∧ nameInString.Lies [nameInString] nameToken ∧
      nameToken.Owns ['a', 'b', 'c'] 1 ∧ nameToken.tags ≠ [] ∧ StyleTable.standard.resolve nameToken.tags = none ∧
      (highlight (.fixed nameInString.encode) .standard ['a', 'b', 'c']).1 = .ok [⟨0, 3, some "cm-string"⟩] := by
  have hparse : (Grammar.fixed nameInString.encode).parse ['a', 'b', 'c'] = .ok nameInString.encode := rfl
  refine ⟨wellFormed_nameInString, .child .root (List.mem_singleton_self _),
    ⟨by decide, ⟨by decide, by decide⟩, fun c hc => nomatch hc⟩, List.cons_ne_nil _ _, by decide +kernel, ?_⟩
  rw [highlight_of_parse .standard hparse,
    Token.spansOf_encode nameInString .standard _ wellFormed_nameInString.whole]
  decide +kernel

end Scriptlet
