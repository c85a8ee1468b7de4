import Mathlib
import Scriptlet.Grammar.Plain
import Scriptlet.Proofs.NodePlaces
import Scriptlet.Proofs.TemplateTree

/-!
# Fragments around any tree

What becomes of a fragment is said here for any tree the inner grammar may hand over, in order or not
(`Template.parse_encloses`). The two searches cut the text in three (`Delimiters.cuts_split`); the entries of the
body's tree stand between the entries of the delimiters, with their ranges moved by the bytes before them and
their ends by the entries before them (`Template.layout`). Nothing keeps a tree that is not in order from
having ranges that cannot be moved, or ends that take the closer in (`Template.parse_unplaced`).
-/

namespace Scriptlet
open Text (Boundary byteLength)

/-! ### The cuts -/

theorem Text.Boundary.of_append (u v : List Char) : Boundary (u ++ v) (Text.byteLength u) := by
  refine ⟨u.length, ?_, ?_⟩
  · rw [List.length_append]
    exact Nat.le_add_right ..
  · rw [byteOffset_append_left (Nat.le_refl _), byteOffset_length]

namespace Delimiters

/-- The text is cut in three where the opener ends and where the closer starts. -/
structure Cuts (d : Delimiters) (text o b c : List Char) : Prop where
  append : o ++ b ++ c = text
  openerEnd : (d.leadingOpen text).getD 0 = byteLength o
  closerStart : (d.trailingClose text (byteLength o)).getD (byteLength text) = byteLength (o ++ b)
  inOrder : byteLength o ≤ byteLength (o ++ b) ∧ byteLength (o ++ b) ≤ byteLength text
  boundaries : Boundary text (byteLength o) ∧ Boundary text (byteLength (o ++ b))

theorem leadingOpen_getD (d : Delimiters) (text : List Char) :
    (d.leadingOpen text).getD 0 = byteLength (d.split text).opener := by
  simp only [leadingOpen, split]
  cases d.openerLength? text <;> rfl

theorem trailingClose_getD (d : Delimiters) (u rest : List Char) :
    (d.trailingClose (u ++ rest) (byteLength u)).getD (byteLength (u ++ rest)) =
      byteLength (u ++ rest.take ((d.closerStart? rest).getD rest.length)) := by
  simp only [trailingClose, Text.splitAtByte?_byteLength, Text.byteLength_append]
  cases d.closerStart? rest with
  | none => simp only [Option.map_none, Option.getD_none, List.take_length]
  | some n => rfl

theorem cuts_split (d : Delimiters) (text : List Char) :
    d.Cuts text (d.split text).opener (d.split text).body (d.split text).closer where
  append := d.split_append text
  openerEnd := d.leadingOpen_getD text
  closerStart := by
    have h := d.trailingClose_getD (d.split text).opener (text.drop ((d.openerLength? text).getD 0))
    rwa [show (d.split text).opener ++ text.drop ((d.openerLength? text).getD 0) = text from
      List.take_append_drop ..] at h
  inOrder := by
    have htext := congrArg byteLength (d.split_append text)
    simp only [Text.byteLength_append] at htext ⊢
    omega
  boundaries := by
    have hcloser := Boundary.of_append ((d.split text).opener ++ (d.split text).body) (d.split text).closer
    have hopener := Boundary.of_append (d.split text).opener ((d.split text).body ++ (d.split text).closer)
    rw [d.split_append] at hcloser
    rw [← List.append_assoc, d.split_append] at hopener
    exact ⟨hopener, hcloser⟩

end Delimiters

namespace Template
variable {inner : Grammar} {d : Delimiters} {o b c : List Char} {u : TokenTree} {ts : List Token}

/-- What the inner grammar says of a body. It is not asked about an empty one, which has no entries. -/
def answer (inner : Grammar) (b : List Char) : Except SyntaxError TokenTree :=
  if b.isEmpty then .ok .empty else inner.parse b

/-- The tree of a fragment around that of its body. -/
def enclose (o b c : List Char) (u : TokenTree) : TokenTree :=
  .branch 0 (byteLength (o ++ b ++ c)) [] (delimiterTree 0 (byteLength o) ++ [u.shift (byteLength o)] ++
    delimiterTree (byteLength (o ++ b)) (byteLength (o ++ b ++ c)))

theorem bodyTree_eq_answer (inner : Grammar) (n : Nat) (b : List Char) :
    bodyTree inner n b = (answer inner b).map fun u => if b.isEmpty then [] else [u.shift n] := by
  cases b with
  | nil => rfl
  | cons x xs => rfl

theorem assemble_eq {trees : List TokenTree} (h : d.split (o ++ b ++ c) = ⟨o, b, c⟩)
    (htrees : TokenTree.concat trees = u.shift (byteLength o)) : assemble d (o ++ b ++ c) trees =
      if (enclose o b c u).fits then .ok (enclose o b c u) else .error .offsetOverflow := by
  have hsame : TokenTree.branch 0 (byteLength (o ++ b ++ c)) [] (delimiterTree 0 (byteLength o) ++ trees ++
      delimiterTree (byteLength o + byteLength b) (byteLength (o ++ b ++ c))) = enclose o b c u := by
    refine TokenTree.branch_congr ?_
    rw [TokenTree.concat_append, TokenTree.concat_append, TokenTree.concat_append, TokenTree.concat_append,
      TokenTree.concat_singleton, htrees, Text.byteLength_append o b]
  simp only [assemble, h, hsame]

theorem parse_eq_answer (inner : Grammar) (h : d.split (o ++ b ++ c) = ⟨o, b, c⟩) : parse inner d (o ++ b ++ c) =
    (answer inner b).bind fun u =>
      if (enclose o b c u).fits then .ok (enclose o b c u) else .error .offsetOverflow := by
  cases hanswer : answer inner b with
  | error e => simp only [parse_eq_bind, h, bodyTree_eq_answer, hanswer, Except.map, Except.bind]
  | ok u =>
    simp only [parse_eq_bind, h, bodyTree_eq_answer, hanswer, Except.map, Except.bind]
    refine assemble_eq h ?_
    cases b with
    | nil =>
      cases hanswer
      exact (TokenTree.shift_empty _).symm
    | cons x xs => exact TokenTree.concat_singleton _

/-! ### The entries -/

/-- The entries of a fragment: the root, the opener, what the body has, and the closer. -/
def layout (o b c : List Char) (u : TokenTree) : List TokenNode :=
  let bodyStart := byteLength o
  let closerStart := bodyStart + byteLength b
  let length := closerStart + byteLength c
  -- the index of the first entry of the body, and that behind its last
  let first := if o.isEmpty then 1 else 2
  let behind := first + u.size
  let size := if c.isEmpty then behind else behind + 1
  [⟨0, length, [], size⟩] ++
    (if o.isEmpty then [] else [⟨0, bodyStart, delimiterTags, 2⟩]) ++
    u.nodes.toList.map (fun n => ⟨n.start + bodyStart, n.stop + bodyStart, n.tags, n.subtreeEnd + first⟩) ++
    (if c.isEmpty then [] else [⟨closerStart, length, delimiterTags, size⟩])

/-- A delimiter has an entry if it has a character. -/
theorem toList_delimiterTree (start : Nat) (v : List Char) :
    (TokenTree.concat (delimiterTree start (start + byteLength v))).nodes.toList =
      if v.isEmpty then [] else [⟨start, start + byteLength v, delimiterTags, 1⟩] := by
  cases v with
  | nil =>
    rw [delimiterTree, if_neg (show ¬start < start + byteLength [] from Nat.lt_irrefl start)]
    rfl
  | cons x xs =>
    have hpos := x.utf8Size_pos
    rw [delimiterTree, if_pos (by rw [Text.byteLength_cons]; omega), TokenTree.concat_singleton]
    rfl

theorem size_delimiterTree (start : Nat) (v : List Char) :
    (TokenTree.concat (delimiterTree start (start + byteLength v))).size = if v.isEmpty then 0 else 1 := by
  rw [TokenTree.size, ← Array.length_toList, toList_delimiterTree]
  split <;> rfl

theorem toList_enclose (o b c : List Char) (u : TokenTree) : (enclose o b c u).nodes.toList = layout o b c u := by
  have hopener := toList_delimiterTree 0 o
  have hopener' := size_delimiterTree 0 o
  have hcloser := toList_delimiterTree (byteLength (o ++ b)) c
  have hcloser' := size_delimiterTree (byteLength (o ++ b)) c
  rw [Nat.zero_add] at hopener hopener'
  rw [enclose, TokenTree.toList_branch, Text.byteLength_append _ c, TokenTree.concat_append, TokenTree.concat_append,
    TokenTree.concat_singleton, Token.toList_append, Token.toList_append, Token.size_append, Token.size_append,
    hopener, hcloser, hopener', hcloser', TokenTree.size_shift, TokenTree.toList_shift, layout, Text.byteLength_append]
  cases o.isEmpty <;> cases c.isEmpty <;>
    simp [Token.shiftEnd, Token.shiftRange, Function.comp_def, Nat.add_assoc, Nat.add_comm, Nat.add_left_comm] <;>
    omega

theorem size_enclose_le (o b c : List Char) (u : TokenTree) : (enclose o b c u).size ≤ u.size + 3 := by
  have hbody : u.nodes.toList.length = u.size := Array.length_toList
  rw [TokenTree.size, ← Array.length_toList, toList_enclose, layout]
  cases o.isEmpty <;> cases c.isEmpty <;> simp [hbody]

/-! ### Order -/

theorem enclose_tokens (o b c : List Char) (ts : List Token) :
    enclose o b c (.concat (Token.encodeAll ts)) = (token o b c ts).encode := by
  rw [enclose, token, Token.encode, Token.encodeAll_append, Token.encodeAll_append, encodeAll_delimiterTokens,
    encodeAll_delimiterTokens, ← Text.byteLength_append]
  refine TokenTree.branch_congr ?_
  simp only [TokenTree.concat_append, TokenTree.concat_singleton, TokenTree.shift_concat]

theorem nested_delimiterTree (start stop : Nat) : (TokenTree.concat (delimiterTree start stop)).Nested start stop := by
  rw [← encodeAll_delimiterTokens]
  exact nestedAll_delimiterTokens.encodeAll

theorem nested_enclose (o c : List Char) (h : u.Nested 0 (byteLength b)) :
    (enclose o b c u).Nested 0 (byteLength (o ++ b ++ c)) := by
  have hbody := h.shift (byteLength o)
  rw [Nat.zero_add, Nat.add_comm, ← Text.byteLength_append] at hbody
  have hlength : byteLength o ≤ byteLength (o ++ b) ∧ byteLength (o ++ b) ≤ byteLength (o ++ b ++ c) := by
    simp only [Text.byteLength_append]
    omega
  refine TokenTree.Nested.branch (Nat.zero_le _) ?_
  rw [TokenTree.concat_append, TokenTree.concat_append, TokenTree.concat_singleton]
  exact ((nested_delimiterTree _ _).append (Nat.zero_le _) hlength.1 hbody).append (Nat.zero_le _) hlength.2
    (nested_delimiterTree _ _)

/-- The tree of a fragment around that of its body. -/
structure Encloses (o b c : List Char) (u tree : TokenTree) : Prop where
  entries : tree.nodes.toList = layout o b c u
  children : ∀ {ts : List Token}, u = .concat (Token.encodeAll ts) → tree.token? = some (token o b c ts)
  nested : u.Nested 0 (byteLength b) →
    tree.Nested 0 (byteLength (o ++ b ++ c)) ∧ tree.token? = some (token o b c u.tokens)
  fits : u.Nested 0 (byteLength b) → byteLength (o ++ b ++ c) ≤ maxOffset → u.size + 3 ≤ maxOffset → tree.fits

theorem encloses_enclose : Encloses o b c u (enclose o b c u) where
  entries := toList_enclose o b c u
  children := by
    rintro ts rfl
    rw [enclose_tokens, Token.token?_encode]
  nested h := by
    refine ⟨nested_enclose o c h, ?_⟩
    obtain ⟨ts, rfl, -⟩ := h.exists_tokens
    rw [enclose_tokens, TokenTree.tokens_concat, Token.token?_encode]
  fits h hlength hsize := (nested_enclose o c h).fits hlength (Nat.le_trans (size_enclose_le o b c u) hsize)

/-- Whatever the delimiters and the inner grammar are: an error of the inner grammar on the body is the answer, and a
tree of the body is enclosed, unless a number in the whole is beyond the largest offset. -/
theorem parse_encloses (inner : Grammar) (d : Delimiters) (text : List Char) : ∃ o b c, d.Cuts text o b c ∧
    (∀ e, answer inner b = .error e → (Grammar.template inner d).parse text = .error e) ∧
    ∀ u, answer inner b = .ok u → ∃ tree, Encloses o b c u tree ∧
      (Grammar.template inner d).parse text = if tree.fits then .ok tree else .error .offsetOverflow := by
  have hcuts := d.cuts_split text
  rcases hparts : d.split text with ⟨o, b, c⟩
  rw [hparts] at hcuts
  obtain rfl : o ++ b ++ c = text := hcuts.append
  have hparse := parse_eq_answer inner hparts
  refine ⟨o, b, c, hcuts, fun e he => ?_, fun u hu => ⟨enclose o b c u, encloses_enclose, ?_⟩⟩
  · rw [he] at hparse
    exact hparse
  · rw [hu] at hparse
    exact hparse

/-- A tree that ends at the largest offset cannot be moved behind an opener, and one with an end beyond its last entry
takes the closer in. -/
theorem parse_unplaced : (Delimiters.standard.split "<%a%>".toList).body = ['a'] ∧
    (Grammar.fixed (.leaf 0 maxOffset [])).parse ['a'] = .ok (.leaf 0 maxOffset []) ∧
    (Grammar.template (.fixed (.leaf 0 maxOffset [])) .standard).parse "<%a%>".toList = .error .offsetOverflow ∧
    ((Grammar.template (.fixed ⟨#[⟨0, 1, [], 99⟩]⟩) .standard).parse "<%a%>".toList).map (·.token?) =
      .ok (some (.node 0 5 [] [.node 0 2 delimiterTags [], .node 2 3 [] [.node 3 5 delimiterTags []]])) := by
  exact ⟨by rfl, by rfl, by cbv, by cbv⟩

end Template

end Scriptlet
