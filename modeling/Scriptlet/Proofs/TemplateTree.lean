import Scriptlet.Grammar.Template
import Scriptlet.Proofs.TokenOrder

/-!
# The tree of a fragment

The tree of a fragment is a token around three groups, one for each part (`Template.token`). No byte of
the text is in two of them, so what holds a character is read off group by group: a delimiter's characters
have the class of meta data (`classOf_opener`, `classOf_closer`), and a character of the body has the class
it has in the body alone (`classOf_body`).
-/

namespace Scriptlet
open Text (byteLength byteOffset)

namespace Template
variable {inner : Grammar} {d : Delimiters} {o b c : List Char} {ts : List Token}

/-! ### The tree of a fragment -/

/-- The token of a delimiter, unless it is empty. -/
def delimiterTokens (start stop : Nat) : List Token :=
  if start < stop then [.node start stop delimiterTags []] else []

/-- The tokens of a fragment with those of its body. -/
def token (o b c : List Char) (ts : List Token) : Token :=
  .node 0 (byteLength (o ++ b ++ c)) [] (delimiterTokens 0 (byteLength o) ++ Token.shiftAll (byteLength o) ts ++
    delimiterTokens (byteLength o + byteLength b) (byteLength (o ++ b ++ c)))

/-- What becomes of the tree of the body, if there is one. -/
def assemble (d : Delimiters) (text : List Char) (body : List TokenTree) : Except SyntaxError TokenTree :=
  let parts := d.split text
  let tree := TokenTree.branch 0 (byteLength text) [] (delimiterTree 0 (byteLength parts.opener) ++ body ++
    delimiterTree (byteLength parts.opener + byteLength parts.body) (byteLength text))
  if tree.fits then .ok tree else .error .offsetOverflow

theorem parse_eq_bind (inner : Grammar) (d : Delimiters) (text : List Char) : parse inner d text =
    (bodyTree inner (byteLength (d.split text).opener) (d.split text).body).bind (assemble d text) := rfl

/-- What the inner grammar says of a body, as tokens. It is not asked about an empty one. -/
inductive Answers (inner : Grammar) : List Char → List Token → Prop
  | empty : Answers inner [] []
  | asked {b : List Char} {t : Token} : b ≠ [] → inner.parse b = .ok t.encode → Answers inner b [t]

theorem encodeAll_delimiterTokens (start stop : Nat) :
    Token.encodeAll (delimiterTokens start stop) = delimiterTree start stop := by
  unfold delimiterTokens delimiterTree
  split <;> rfl

theorem bodyTree_eq (h : Answers inner b ts) (n : Nat) :
    bodyTree inner n b = .ok (Token.encodeAll (Token.shiftAll n ts)) := by
  cases h with
  | empty => rfl
  | @asked b t hne hparse =>
    cases b with
    | nil => exact absurd rfl hne
    | cons c cs =>
      rw [bodyTree, hparse]
      show Except.ok [t.encode.shift n] = _
      rw [Token.encode_shift]
      rfl

theorem parse_eq (hsplit : d.split (o ++ b ++ c) = ⟨o, b, c⟩) (h : Answers inner b ts) :
    parse inner d (o ++ b ++ c) =
      if (token o b c ts).encode.fits then .ok (token o b c ts).encode else .error .offsetOverflow := by
  simp only [parse_eq_bind, assemble, hsplit, bodyTree_eq h, Except.bind, token, Token.encode, Token.encodeAll_append,
    encodeAll_delimiterTokens]

theorem answers_of_parse (hsplit : d.split (o ++ b ++ c) = ⟨o, b, c⟩) (hinner : inner.WellFormed)
    {tree : TokenTree} (h : parse inner d (o ++ b ++ c) = .ok tree) : ∃ ts, Answers inner b ts ∧
      Token.WellFormedAll b ts ∧ tree = (token o b c ts).encode := by
  have hfits : ∀ ts, Answers inner b ts → tree = (token o b c ts).encode := by
    intro ts hts
    rw [parse_eq hsplit hts] at h
    split at h
    · exact (Except.ok.inj h).symm
    · cases h
  cases hb : b with
  | nil =>
    subst hb
    exact ⟨[], .empty, ⟨trivial, trivial⟩, hfits [] .empty⟩
  | cons x xs =>
    cases hparse : inner.parse b with
    | error e =>
      simp only [parse, hsplit] at h
      rw [hb] at h hparse
      simp [bodyTree, hparse, Except.map, Except.bind] at h
    | ok u =>
      obtain ⟨t, rfl, hnested, hwhole⟩ := hinner b u hparse
      have hne : b ≠ [] := by rw [hb]; exact List.cons_ne_nil x xs
      rw [← hb]
      exact ⟨[t], .asked hne hparse, ⟨⟨hnested, trivial⟩, hwhole, trivial⟩, hfits [t] (.asked hne hparse)⟩

/-! ### It is well formed -/

theorem nestedAll_delimiterTokens {start stop : Nat} : Token.NestedAll start stop (delimiterTokens start stop) := by
  unfold delimiterTokens
  split
  · exact ⟨⟨Nat.le_refl _, Nat.le_of_lt ‹_›, Nat.le_refl _, trivial⟩, trivial⟩
  · trivial

theorem wholeEndsAll_delimiterTokens {text : List Char} {start stop : Nat} (h : Token.Whole text start)
    (h' : Token.Whole text stop) : Token.WholeEndsAll text (delimiterTokens start stop) := by
  unfold delimiterTokens
  split
  · exact ⟨⟨h, h', trivial⟩, trivial⟩
  · trivial

theorem nestedAll_body (hts : Token.WellFormedAll b ts) (o : List Char) :
    Token.NestedAll (byteLength o) (byteLength o + byteLength b) (Token.shiftAll (byteLength o) ts) := by
  have := hts.nested.shift (byteLength o)
  rwa [Nat.zero_add, Nat.add_comm (byteLength b)] at this

theorem wellFormed_token (hts : Token.WellFormedAll b ts) :
    (token o b c ts).WellFormed (o ++ b ++ c) := by
  have hlen : byteLength (o ++ b ++ c) = byteLength o + byteLength b + byteLength c := by
    rw [Text.byteLength_append, Text.byteLength_append]
  have hstart : Token.Whole (o ++ b ++ c) 0 := .inl (.zero _)
  have hstop : Token.Whole (o ++ b ++ c) (byteLength (o ++ b ++ c)) := .inl (.byteLength _)
  have hopen : Token.Whole (o ++ b ++ c) (0 + byteLength o) :=
    Token.Whole.shift (.inl (.zero b)) (Nat.zero_le _)
  have hclose : Token.Whole (o ++ b ++ c) (byteLength b + byteLength o) :=
    Token.Whole.shift (.inl (.byteLength b)) (Nat.le_refl _)
  rw [Nat.zero_add] at hopen
  rw [Nat.add_comm] at hclose
  refine ⟨⟨Nat.le_refl _, Nat.zero_le _, Nat.le_refl _, ?_⟩, hstart, hstop, ?_⟩
  · have hfront := nestedAll_delimiterTokens.append (Nat.zero_le _) (Nat.le_add_right ..) (nestedAll_body hts o)
    exact hfront.append (Nat.zero_le _) (by omega) nestedAll_delimiterTokens
  · exact Token.wholeEndsAll_append (Token.wholeEndsAll_append (wholeEndsAll_delimiterTokens hstart hopen)
      (Token.wholeEndsAll_shiftAll ts 0 hts.nested hts.whole)) (wholeEndsAll_delimiterTokens hclose hstop)

/-! ### The classes of its characters -/

theorem holdingAny_delimiterTokens {start stop x y : Nat} (hxy : x < y) :
    Token.holdingAny x y (delimiterTokens start stop) = if start ≤ x ∧ y ≤ stop then [delimiterTags] else [] := by
  unfold delimiterTokens
  split
  · simp only [Token.holdingAny, Token.holding]
    split <;> rfl
  · rw [if_neg (by omega)]
    rfl

section
variable {i : Nat} (styles : StyleTable) (hts : Token.WellFormedAll b ts)
include hts

/-- The tokens that hold a character of a fragment, group by group. -/
theorem classOf_token (hi : i < (o ++ b ++ c).length) : (token o b c ts).classOf styles (o ++ b ++ c) i =
    ((if byteOffset (o ++ b ++ c) (i + 1) ≤ byteLength o then [delimiterTags] else []) ++
      Token.holdingAny (byteOffset (o ++ b ++ c) i) (byteOffset (o ++ b ++ c) (i + 1))
        (Token.shiftAll (byteLength o) ts) ++
      if byteLength o + byteLength b ≤ byteOffset (o ++ b ++ c) i then [delimiterTags] else []).reverse.findSome?
        styles.resolve := by
  have hlt := Text.byteOffset_lt_succ hi
  have hle := Text.byteOffset_le (show i + 1 ≤ (o ++ b ++ c).length from hi)
  -- the root has no tags of its own
  have hroot : [([] : List StyleTag)].findSome? styles.resolve = none := rfl
  rw [Token.classOf_eq styles (wellFormed_token hts).nested, token, Token.holding,
    if_pos ⟨Nat.zero_le _, hle⟩, List.reverse_cons, List.findSome?_append, hroot, Option.or_none,
    Token.holdingAny_append, Token.holdingAny_append, holdingAny_delimiterTokens hlt,
    holdingAny_delimiterTokens hlt]
  simp only [Nat.zero_le, true_and, hle, and_true]

theorem classOf_opener (hi : i < o.length) :
    (token o b c ts).classOf styles (o ++ b ++ c) i = styles.resolve delimiterTags := by
  have hi' : i < (o ++ b ++ c).length := by
    simp only [List.length_append]
    omega
  have hlt := Text.byteOffset_lt_succ hi'
  have hin : byteOffset (o ++ b ++ c) (i + 1) ≤ byteLength o := by
    rw [List.append_assoc, Text.byteOffset_append_left hi]
    exact Text.byteOffset_le hi
  rw [classOf_token styles hts hi', if_pos hin, Token.holdingAny_of_outside (nestedAll_body hts o) hlt (.inl hin),
    if_neg (by omega)]
  exact List.findSome?_singleton

theorem classOf_body (hi : i < b.length) : (token o b c ts).classOf styles (o ++ b ++ c) (o.length + i) =
    (Token.holdingAny (byteOffset b i) (byteOffset b (i + 1)) ts).reverse.findSome? styles.resolve := by
  have hi' : o.length + i < (o ++ b ++ c).length := by
    simp only [List.length_append]
    omega
  have hstart : byteOffset (o ++ b ++ c) (o.length + i) = byteOffset b i + byteLength o := by
    rw [List.append_assoc, Text.byteOffset_append_right, Text.byteOffset_append_left (by omega), Nat.add_comm]
  have hstop : byteOffset (o ++ b ++ c) (o.length + i + 1) = byteOffset b (i + 1) + byteLength o := by
    rw [List.append_assoc, Nat.add_assoc, Text.byteOffset_append_right, Text.byteOffset_append_left hi,
      Nat.add_comm]
  have hlt := Text.byteOffset_lt_succ hi
  have hle := Text.byteOffset_le (show i + 1 ≤ b.length from hi)
  rw [classOf_token styles hts hi', hstart, hstop, Token.holdingAny_shift, if_neg (by omega), if_neg (by omega),
    List.nil_append, List.append_nil]

theorem classOf_closer (hi : i < c.length) :
    (token o b c ts).classOf styles (o ++ b ++ c) (o.length + b.length + i) = styles.resolve delimiterTags := by
  have hi' : o.length + b.length + i < (o ++ b ++ c).length := by
    simp only [List.length_append]
    omega
  have hlt := Text.byteOffset_lt_succ hi'
  have hin : byteLength o + byteLength b ≤ byteOffset (o ++ b ++ c) (o.length + b.length + i) := by
    rw [← List.length_append, Text.byteOffset_append_right, Text.byteLength_append]
    omega
  rw [classOf_token styles hts hi', if_neg (by omega),
    Token.holdingAny_of_outside (nestedAll_body hts o) hlt (.inr hin), if_pos hin]
  exact List.findSome?_singleton

/-- Alone, the body is highlighted by the same classes. -/
theorem highlight_body (h : Answers inner b ts) : (highlight inner styles b).1 =
    .ok (Span.runLength ((List.range b.length).map fun i =>
      (Token.holdingAny (byteOffset b i) (byteOffset b (i + 1)) ts).reverse.findSome? styles.resolve)) := by
  cases h with
  | empty => rfl
  | @asked b t hne hparse =>
    have hclasses : t.classOf styles b = _ := funext (Token.classOf_eq styles hts.nested.1)
    rw [highlight_of_parse styles hparse, t.spansOf_encode styles b hts.whole.1, Token.classes, hclasses]
    simp only [Token.holdingAny, List.append_nil]

end

/-! ### Asking the inner grammar -/

/-- Whatever the inner grammar is, what becomes of the text follows from its answer on the body, and
without an answer if the body is empty. -/
def AsksOnly (d : Delimiters) (body text : List Char) : Prop :=
  (body = [] → ∃ result, ∀ inner, parse inner d text = result) ∧
    (body ≠ [] → ∃ goOn, ∀ inner, parse inner d text = (inner.parse body).bind goOn)

theorem asksOnly_split {text : List Char} : AsksOnly d (d.split text).body text := by
  constructor
  · intro h
    refine ⟨assemble d text [], fun inner => ?_⟩
    rw [parse_eq_bind, h]
    rfl
  · intro h
    refine ⟨fun t => assemble d text [t.shift (byteLength (d.split text).opener)], fun inner => ?_⟩
    rw [parse_eq_bind]
    generalize (d.split text).body = body at *
    cases body with
    | nil => exact absurd rfl h
    | cons x xs =>
      rw [bodyTree]
      cases inner.parse (x :: xs) <;> rfl

end Template

end Scriptlet
