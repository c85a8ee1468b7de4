import Scriptlet.Proofs.TokenBuilding

/-!
# Nesting in the array of a tree

`TokenTree.Nested` says of an array in preorder, entry by entry, what `Token.Nested` says of a tree: each entry ends
behind itself, the entries up to its end lie in it, and those from there on lie behind it. No tree is needed for
this, so it can be said of any array a grammar hands over. It goes through all ways of putting arrays
together (`Nested.append`, `Nested.shift`, `Nested.branch`), and so holds of the array of a nested tree
(`Token.Nested.encode`). Conversely a nested array falls apart into the stretch inside its first entry and the one
behind it (`Nested.eq_append`), so that nothing but arrays of nested trees is nested (`nested_iff`).
-/

namespace Scriptlet

namespace TokenTree
variable {t u : TokenTree} {i : Nat} {n : TokenNode}

/-! ### Entries -/

theorem toList_shift (t : TokenTree) (k : Nat) :
    (t.shift k).nodes.toList = t.nodes.toList.map (Token.shiftRange k) := by
  rw [shift, Array.toList_map]
  rfl

theorem size_shift (t : TokenTree) (k : Nat) : (t.shift k).size = t.size := Array.size_map

theorem shift_empty (k : Nat) : empty.shift k = empty := eq_of_toList (toList_shift empty k)

theorem toList_branch (start stop : Nat) (tags : List StyleTag) (children : List TokenTree) :
    (branch start stop tags children).nodes.toList =
      ⟨start, stop, tags, 1 + (concat children).size⟩ :: (concat children).nodes.toList.map (Token.shiftEnd 1) := by
  have hsize : (empty.startNode start stop tags).size = 1 := rfl
  rw [branch, foldl_append, close, Array.toList_modify, Token.toList_append, Token.size_append, hsize]
  rfl

theorem branch_congr {start stop : Nat} {tags : List StyleTag} {ts us : List TokenTree} (h : concat ts = concat us) :
    branch start stop tags ts = branch start stop tags us := by
  refine eq_of_toList ?_
  rw [toList_branch, toList_branch, h]

/-! ### Nesting -/

/-- The entries lie in the range, each with those up to its end in it and the others that follow behind it. -/
structure Nested (lo hi : Nat) (t : TokenTree) : Prop where
  bounds : ∀ {i : Nat} {n : TokenNode}, t.nodes[i]? = some n → lo ≤ n.start ∧ n.start ≤ n.stop ∧ n.stop ≤ hi
  ends : ∀ {i : Nat} {n : TokenNode}, t.nodes[i]? = some n → i < n.subtreeEnd ∧ n.subtreeEnd ≤ t.size
  inside : ∀ {i j : Nat} {n m : TokenNode}, t.nodes[i]? = some n → t.nodes[j]? = some m →
    i < j → j < n.subtreeEnd → m.subtreeEnd ≤ n.subtreeEnd ∧ n.start ≤ m.start ∧ m.stop ≤ n.stop
  behind : ∀ {i j : Nat} {n m : TokenNode}, t.nodes[i]? = some n → t.nodes[j]? = some m →
    n.subtreeEnd ≤ j → n.stop ≤ m.start

section
variable {lo hi lo' hi' mid start stop : Nat}

theorem Nested.empty : empty.Nested lo hi where
  bounds h := by cases h
  ends h := by cases h
  inside h := by cases h
  behind h := by cases h

theorem Nested.mono (hlo : lo' ≤ lo) (hhi : hi ≤ hi') (h : t.Nested lo hi) : t.Nested lo' hi' where
  bounds hn := by
    have := h.bounds hn
    omega
  ends := h.ends
  inside := h.inside
  behind := h.behind

theorem lt_size (h : t.nodes[i]? = some n) : i < t.size := (Array.getElem?_eq_some_iff.mp h).1

/-- An entry of an append is one of the first array, or one of the second with its end moved. -/
theorem getElem?_append_cases (h : (t.append u).nodes[i]? = some n) :
    t.nodes[i]? = some n ∨ ∃ k m, i = t.size + k ∧ u.nodes[k]? = some m ∧ n = Token.shiftEnd t.size m := by
  rw [← Array.getElem?_toList, Token.toList_append, List.getElem?_append, Array.length_toList] at h
  split at h
  · exact .inl (by rwa [Array.getElem?_toList] at h)
  · rw [List.getElem?_map, Array.getElem?_toList, Option.map_eq_some_iff] at h
    obtain ⟨m, hm, rfl⟩ := h
    refine .inr ⟨i - t.size, m, ?_, hm, rfl⟩
    simp only [size]
    omega

theorem Nested.append (hmid : lo ≤ mid) (hhi : mid ≤ hi) (ht : t.Nested lo mid) (hu : u.Nested mid hi) :
    (t.append u).Nested lo hi where
  bounds h₁ := by
    rcases getElem?_append_cases h₁ with hn | ⟨k, n, rfl, hn, rfl⟩
    · have := ht.bounds hn
      omega
    · have := hu.bounds hn
      simp only [Token.shiftEnd]
      omega
  ends h₁ := by
    rw [Token.size_append]
    rcases getElem?_append_cases h₁ with hn | ⟨k, n, rfl, hn, rfl⟩
    · have := ht.ends hn
      omega
    · have := hu.ends hn
      simp only [Token.shiftEnd]
      omega
  inside h₁ h₂ hlt hin := by
    rcases getElem?_append_cases h₁ with hn | ⟨k, n, rfl, hn, rfl⟩ <;>
      rcases getElem?_append_cases h₂ with hm | ⟨l, m, rfl, hm, rfl⟩
    · exact ht.inside hn hm hlt hin
    · have := ht.ends hn
      omega
    · have := lt_size hm
      omega
    · simp only [Token.shiftEnd] at hin ⊢
      have := hu.inside hn hm (by omega) (by omega)
      omega
  behind h₁ h₂ hle := by
    rcases getElem?_append_cases h₁ with hn | ⟨k, n, rfl, hn, rfl⟩ <;>
      rcases getElem?_append_cases h₂ with hm | ⟨l, m, rfl, hm, rfl⟩
    · exact ht.behind hn hm hle
    · have hstop := ht.bounds hn
      have hstart := hu.bounds hm
      simp only [Token.shiftEnd]
      omega
    · have := lt_size hm
      simp only [Token.shiftEnd] at hle
      omega
    · simp only [Token.shiftEnd] at hle ⊢
      exact hu.behind hn hm (by omega)

theorem getElem?_shift_cases {k : Nat} (h : (t.shift k).nodes[i]? = some n) :
    ∃ m, t.nodes[i]? = some m ∧ n = Token.shiftRange k m := by
  rw [shift, Array.getElem?_map, Option.map_eq_some_iff] at h
  obtain ⟨m, hm, rfl⟩ := h
  exact ⟨m, hm, rfl⟩

theorem Nested.shift (k : Nat) (h : t.Nested lo hi) : (t.shift k).Nested (lo + k) (hi + k) where
  bounds h₁ := by
    obtain ⟨n, hn, rfl⟩ := getElem?_shift_cases h₁
    have := h.bounds hn
    simp only [Token.shiftRange]
    omega
  ends h₁ := by
    obtain ⟨n, hn, rfl⟩ := getElem?_shift_cases h₁
    rw [size_shift]
    simpa only [Token.shiftRange] using h.ends hn
  inside h₁ h₂ hlt hin := by
    obtain ⟨n, hn, rfl⟩ := getElem?_shift_cases h₁
    obtain ⟨m, hm, rfl⟩ := getElem?_shift_cases h₂
    have := h.inside hn hm hlt hin
    simp only [Token.shiftRange]
    omega
  behind h₁ h₂ hle := by
    obtain ⟨n, hn, rfl⟩ := getElem?_shift_cases h₁
    obtain ⟨m, hm, rfl⟩ := getElem?_shift_cases h₂
    have := h.behind hn hm hle
    simp only [Token.shiftRange]
    omega

theorem getElem?_branch_cases {tags : List StyleTag} {children : List TokenTree}
    (h : (branch start stop tags children).nodes[i]? = some n) :
    (i = 0 ∧ n = ⟨start, stop, tags, 1 + (concat children).size⟩) ∨
      ∃ k m, i = k + 1 ∧ (concat children).nodes[k]? = some m ∧ n = Token.shiftEnd 1 m := by
  rw [← Array.getElem?_toList, toList_branch] at h
  cases i with
  | zero => exact .inl ⟨rfl, (Option.some.inj h).symm⟩
  | succ k =>
    rw [List.getElem?_cons_succ, List.getElem?_map, Array.getElem?_toList, Option.map_eq_some_iff] at h
    obtain ⟨m, hm, rfl⟩ := h
    exact .inr ⟨k, m, rfl, hm, rfl⟩

theorem size_branch (start stop : Nat) (tags : List StyleTag) (children : List TokenTree) :
    (branch start stop tags children).size = 1 + (concat children).size := by
  rw [size, ← Array.length_toList, toList_branch, List.length_cons, List.length_map, Array.length_toList, Nat.add_comm]
  rfl

theorem Nested.branch {tags : List StyleTag} {children : List TokenTree} (horder : start ≤ stop)
    (h : (concat children).Nested start stop) : (branch start stop tags children).Nested start stop where
  bounds h₁ := by
    rcases getElem?_branch_cases h₁ with ⟨rfl, rfl⟩ | ⟨k, n, rfl, hn, rfl⟩
    · exact ⟨Nat.le_refl _, horder, Nat.le_refl _⟩
    · simpa only [Token.shiftEnd] using h.bounds hn
  ends h₁ := by
    rw [size_branch]
    rcases getElem?_branch_cases h₁ with ⟨rfl, rfl⟩ | ⟨k, n, rfl, hn, rfl⟩
    · simp only
      omega
    · have := h.ends hn
      simp only [Token.shiftEnd]
      omega
  inside h₁ h₂ hlt hin := by
    rcases getElem?_branch_cases h₂ with ⟨rfl, rfl⟩ | ⟨l, m, rfl, hm, rfl⟩
    · omega
    · rcases getElem?_branch_cases h₁ with ⟨rfl, rfl⟩ | ⟨k, n, rfl, hn, rfl⟩
      · have hends := h.ends hm
        have hbounds := h.bounds hm
        simp only [Token.shiftEnd]
        omega
      · simp only [Token.shiftEnd] at hin ⊢
        have := h.inside hn hm (by omega) (by omega)
        omega
  behind h₁ h₂ hle := by
    rcases getElem?_branch_cases h₁ with ⟨rfl, rfl⟩ | ⟨k, n, rfl, hn, rfl⟩
    · have hlt := lt_size h₂
      rw [size_branch] at hlt
      simp only at hle
      omega
    · simp only [Token.shiftEnd] at hle ⊢
      rcases getElem?_branch_cases h₂ with ⟨rfl, rfl⟩ | ⟨l, m, rfl, hm, rfl⟩
      · omega
      · simpa only [Token.shiftEnd] using h.behind hn hm (by omega)

theorem Nested.fits (h : t.Nested lo hi) (hhi : hi ≤ maxOffset) (hsize : t.size ≤ maxOffset) : t.fits = true := by
  rw [TokenTree.fits, Array.all_eq_true']
  intro n hn
  obtain ⟨i, hi⟩ := Array.mem_iff_getElem?.mp hn
  have hbounds := h.bounds hi
  have hends := h.ends hi
  simp only [Bool.and_eq_true, decide_eq_true_eq]
  omega

end

end TokenTree

namespace Token

theorem concat_encodeAll_cons (t : Token) (ts : List Token) :
    TokenTree.concat (encodeAll (t :: ts)) = t.encode.append (TokenTree.concat (encodeAll ts)) := by
  rw [← TokenTree.concat_singleton t.encode, ← TokenTree.concat_append]
  rfl

mutual

theorem Nested.encode {lo hi : Nat} : ∀ {t : Token}, t.Nested lo hi → t.encode.Nested lo t.stop
  | .node start stop tags children, ⟨h₁, h₂, _, hchildren⟩ => by
    rw [Token.encode]
    exact (TokenTree.Nested.branch h₂ hchildren.encodeAll).mono h₁ (Nat.le_refl _)

theorem NestedAll.encodeAll {lo hi : Nat} :
    ∀ {ts : List Token}, NestedAll lo hi ts → (TokenTree.concat (encodeAll ts)).Nested lo hi
  | [], _ => .empty
  | t :: ts, ⟨ht, hts⟩ => by
    rw [concat_encodeAll_cons]
    exact ht.encode.append ht.bounds.1 ht.bounds.2 hts.encodeAll

end

end Token

/-! ### Arrays without a tree in mind -/

namespace TokenTree
variable {t : TokenTree} {lo hi lo' hi' i k : Nat}

/-- The entries of a stretch of the array, with their ends counted from its front. -/
def slice (t : TokenTree) (i k : Nat) : TokenTree :=
  ⟨(((t.nodes.toList.drop i).take k).map fun n => { n with subtreeEnd := n.subtreeEnd - i }).toArray⟩

theorem size_slice (h : i + k ≤ t.size) : (t.slice i k).size = k := by
  have hsize : t.nodes.toList.length = t.size := Array.length_toList
  simp only [slice, size, List.size_toArray, List.length_map, List.length_take, List.length_drop]
  omega

theorem getElem?_slice_cases {j : Nat} {n : TokenNode} (h : (t.slice i k).nodes[j]? = some n) :
    j < k ∧ ∃ m, t.nodes[i + j]? = some m ∧ n = { m with subtreeEnd := m.subtreeEnd - i } := by
  rw [slice, List.getElem?_toArray, List.getElem?_map, List.getElem?_take, List.getElem?_drop] at h
  split at h
  · rw [Array.getElem?_toList, Option.map_eq_some_iff] at h
    obtain ⟨m, hm, rfl⟩ := h
    exact ⟨‹_›, m, hm, rfl⟩
  · cases h

theorem Nested.map_shiftEnd_slice (h : t.Nested lo hi) :
    (t.slice i k).nodes.toList.map (Token.shiftEnd i) = (t.nodes.toList.drop i).take k := by
  -- no end is before its entry, so nothing was cut off
  rw [slice, List.map_map]
  refine (List.map_congr_left fun n hn => ?_).trans (List.map_id _)
  obtain ⟨j, hj⟩ := List.mem_iff_getElem?.mp (List.mem_of_mem_take hn)
  rw [List.getElem?_drop, Array.getElem?_toList] at hj
  have hend : n.subtreeEnd - i + i = n.subtreeEnd := by
    have := h.ends hj
    omega
  simp only [Function.comp_apply, Token.shiftEnd, hend, id]

theorem Nested.slice (h : t.Nested lo hi) (hk : i + k ≤ t.size)
    (hin : ∀ {j : Nat} {m : TokenNode}, t.nodes[i + j]? = some m → j < k →
      lo' ≤ m.start ∧ m.stop ≤ hi' ∧ m.subtreeEnd ≤ i + k) : (t.slice i k).Nested lo' hi' where
  bounds h₁ := by
    obtain ⟨hlt, n, hn, rfl⟩ := getElem?_slice_cases h₁
    have hbounds := h.bounds hn
    have hwithin := hin hn hlt
    exact ⟨hwithin.1, hbounds.2.1, hwithin.2.1⟩
  ends h₁ := by
    obtain ⟨hlt, n, hn, rfl⟩ := getElem?_slice_cases h₁
    have hends := h.ends hn
    have hwithin := hin hn hlt
    rw [size_slice hk]
    simp only
    omega
  inside h₁ h₂ hlt hlast := by
    obtain ⟨-, n, hn, rfl⟩ := getElem?_slice_cases h₁
    obtain ⟨-, m, hm, rfl⟩ := getElem?_slice_cases h₂
    simp only at hlast ⊢
    have := h.inside hn hm (by omega) (by omega)
    omega
  behind h₁ h₂ hle := by
    obtain ⟨-, n, hn, rfl⟩ := getElem?_slice_cases h₁
    obtain ⟨-, m, hm, rfl⟩ := getElem?_slice_cases h₂
    simp only at hle ⊢
    exact h.behind hn hm (by omega)

/-- A nested array is a branch for its first entry and what stands behind it. -/
theorem Nested.eq_append {n : TokenNode} (h : t.Nested lo hi) (hn : t.nodes[0]? = some n) :
    t = (TokenTree.branch n.start n.stop n.tags [t.slice 1 (n.subtreeEnd - 1)]).append
      (t.slice n.subtreeEnd (t.size - n.subtreeEnd)) := by
  have hends := h.ends hn
  have hinner : 1 + (t.slice 1 (n.subtreeEnd - 1)).size = n.subtreeEnd := by
    rw [size_slice (by omega)]
    omega
  have hcons : t.nodes.toList = n :: t.nodes.toList.drop 1 := by
    rw [← Array.getElem?_toList] at hn
    cases hlist : t.nodes.toList with
    | nil => simp [hlist] at hn
    | cons m ms =>
      rw [hlist] at hn
      cases hn
      rfl
  have hrest : (t.nodes.toList.drop n.subtreeEnd).take (t.size - n.subtreeEnd) =
      (t.nodes.toList.drop 1).drop (n.subtreeEnd - 1) := by
    rw [List.drop_drop, Nat.add_sub_cancel' (by omega)]
    exact List.take_of_length_le (by rw [List.length_drop, Array.length_toList]; rfl)
  refine eq_of_toList ?_
  rw [Token.toList_append, size_branch, toList_branch, concat_singleton, hinner, h.map_shiftEnd_slice,
    h.map_shiftEnd_slice, hrest, List.cons_append, List.take_append_drop]
  exact hcons

/-- An array whose entries are nested is that of some trees in order. -/
theorem Nested.exists_tokens (h : t.Nested lo hi) :
    ∃ ts, t = concat (Token.encodeAll ts) ∧ Token.NestedAll lo hi ts := by
  induction hsize : t.size using Nat.strong_induction_on generalizing t lo hi with
  | _ size ih =>
    cases hroot : t.nodes[0]? with
    | none =>
      have hnil : t.nodes.toList.length = 0 := by simpa using hroot
      exact ⟨[], eq_of_toList (List.eq_nil_of_length_eq_zero hnil), trivial⟩
    | some n =>
      have hends := h.ends hroot
      have hbounds := h.bounds hroot
      have hk : 1 + (n.subtreeEnd - 1) ≤ t.size := by omega
      have hk' : n.subtreeEnd + (t.size - n.subtreeEnd) ≤ t.size := by omega
      have hinner : (t.slice 1 (n.subtreeEnd - 1)).Nested n.start n.stop := by
        refine h.slice hk fun hm hlt => ?_
        have := h.inside hroot hm (by omega) (by omega)
        omega
      have hrest : (t.slice n.subtreeEnd (t.size - n.subtreeEnd)).Nested n.stop hi := by
        refine h.slice hk' fun hm hlt => ?_
        have hm' := h.ends hm
        exact ⟨h.behind hroot hm (by omega), (h.bounds hm).2.2, by omega⟩
      obtain ⟨children, hchildren, horder⟩ := ih _ (by rw [size_slice hk]; omega) hinner rfl
      obtain ⟨later, hlater, horder'⟩ := ih _ (by rw [size_slice hk']; omega) hrest rfl
      have horder₀ : Token.Nested lo hi (.node n.start n.stop n.tags children) :=
        ⟨hbounds.1, hbounds.2.1, hbounds.2.2, horder⟩
      refine ⟨.node n.start n.stop n.tags children :: later, ?_, horder₀, horder'⟩
      have hsplit := h.eq_append hroot
      rw [hchildren, hlater, branch_congr (concat_singleton _)] at hsplit
      rw [Token.concat_encodeAll_cons, Token.encode, ← hsplit]

theorem nested_iff : t.Nested lo hi ↔ ∃ ts, t = concat (Token.encodeAll ts) ∧ Token.NestedAll lo hi ts := by
  constructor
  · exact Nested.exists_tokens
  · rintro ⟨ts, rfl, hts⟩
    exact hts.encodeAll

/-- The trees an array is read as, all of it. -/
def tokens (t : TokenTree) : List Token := tokensFrom t.nodes 0 t.size

theorem tokens_concat (ts : List Token) : (concat (Token.encodeAll ts)).tokens = ts := by
  have hlist := toList_extend empty ts
  have hsize : (extend empty ts).size = 0 + Token.sizeAll ts := size_extend empty ts
  have hread := Token.tokensFrom_nodesAllAt (extend empty ts).nodes ts 0 [] [] rfl
    (by rw [hlist, List.append_nil]; rfl)
  rw [← hsize] at hread
  exact hread

theorem shift_concat (n : Nat) (ts : List Token) :
    (concat (Token.encodeAll ts)).shift n = concat (Token.encodeAll (Token.shiftAll n ts)) := by
  refine eq_of_toList ?_
  show ((extend empty ts).shift n).nodes.toList = (extend empty (Token.shiftAll n ts)).nodes.toList
  rw [toList_shift, toList_extend, toList_extend, Token.nodesAllAt_shiftRange, List.map_append]
  rfl

end TokenTree

end Scriptlet
