import Mathlib.Data.Fintype.Basic
import Mathlib.Data.Finset.Card
import Scriptlet.Style.Modifiers

/-!
# Subsets of modifiers

`members` are the bits of a mask that are set, so that `contains` is inclusion and `size` the number of
members. The masks within a mask are met going down from it: of those less than one of them the largest is
`(sub - 1) &&& m` (`le_sub_one_land`), so none is passed over (`mem_masksFrom`). The list of subsets is in
the order of `ranksAbove`, which no two sets share a place in.
-/

namespace Scriptlet

/-- Of the masks within `m` that are less than `s`, none is larger than `(s - 1) &&& m`. -/
theorem le_sub_one_land {m s k : Nat} (hs : s &&& m = s) (hk : k &&& m = k) (hlt : k < s) :
    k ≤ (s - 1) &&& m := by
  induction s using Nat.strongRecOn generalizing m k with
  | ind s ih =>
    -- without their lowest bits the masks are within `m` without its lowest bit
    have hs' : s / 2 &&& m / 2 = s / 2 := by rw [← Nat.and_div_two, hs]
    have hk' : k / 2 &&& m / 2 = k / 2 := by rw [← Nat.and_div_two, hk]
    have hhalf : ((s - 1) &&& m) / 2 = (s - 1) / 2 &&& m / 2 := Nat.and_div_two
    rcases Nat.mod_two_eq_zero_or_one s with heven | hodd
    · have hpred : (s - 1) / 2 = s / 2 - 1 := by omega
      have hle := ih (s / 2) (by omega) hs' hk' (by omega)
      rw [← hpred, ← hhalf] at hle
      -- one less than an even mask ends in a one, so the last bit is that of `m`
      have hlow : k % 2 = 1 → ((s - 1) &&& m) % 2 = 1 := by
        intro hone
        rw [← hk, Nat.and_mod_two_eq_one] at hone
        rw [Nat.and_mod_two_eq_one]
        omega
      omega
    · have hpred : (s - 1) / 2 = s / 2 := by omega
      rw [hpred, hs'] at hhalf
      omega

namespace Modifiers
variable {a b c : Modifiers}

/-- The places of the modifiers in the set. -/
def members (a : Modifiers) : Finset (Fin 6) := Finset.univ.filter fun i => a.mask[i] = true

theorem contains_iff : a.contains b = true ↔ b.members ⊆ a.members := by
  simp only [contains, beq_iff_eq, members, Finset.subset_iff, Finset.mem_filter, Finset.mem_univ, true_and]
  constructor
  · intro h i hi
    have hbit := congrArg (fun m : BitVec 6 => m[i]) h
    simp only [Fin.getElem_fin, BitVec.getElem_and] at hbit hi ⊢
    rw [hi, Bool.and_true] at hbit
    exact hbit
  · intro h
    ext i hi
    have := @h ⟨i, hi⟩
    simp only [Fin.getElem_fin] at this
    simp only [BitVec.getElem_and]
    cases hb : b.mask[i] with
    | false => simp
    | true => simp [this hb]

theorem size_eq_card (a : Modifiers) : a.size = a.members.card := by
  obtain ⟨m⟩ := a
  revert m
  decide

/-! ### Going down the masks -/

theorem toNat_sub_one {s : BitVec 6} (hs : s ≠ 0) : (s - 1).toNat = s.toNat - 1 :=
  BitVec.toNat_sub_of_le (BitVec.le_def.2 (Nat.pos_of_ne_zero fun hz => hs (BitVec.eq_of_toNat_eq hz)))

theorem mem_masksFrom {m s k : BitVec 6} (hs : s &&& m = s) : k ∈ masksFrom m s ↔ k &&& m = k ∧ k ≤ s := by
  fun_induction masksFrom m s with
  | case1 =>
    rw [List.mem_singleton]
    constructor
    · rintro rfl
      exact ⟨hs, BitVec.le_refl 0⟩
    · rintro ⟨-, hle⟩
      exact BitVec.eq_of_toNat_eq (Nat.le_zero.1 (BitVec.le_def.1 hle))
  | case2 s hne ih =>
    have hpred : (s - 1).toNat = s.toNat - 1 := toNat_sub_one hne
    rw [List.mem_cons, ih (by rw [BitVec.and_assoc, BitVec.and_self])]
    constructor
    · rintro (rfl | ⟨hk, hle⟩)
      · exact ⟨hs, BitVec.le_refl k⟩
      · refine ⟨hk, BitVec.le_def.2 ?_⟩
        have hland : ((s - 1) &&& m).toNat ≤ (s - 1).toNat := Nat.and_le_left
        have := BitVec.le_def.1 hle
        omega
    · rintro ⟨hk, hle⟩
      rcases Nat.eq_or_lt_of_le (BitVec.le_def.1 hle) with heq | hlt
      · exact .inl (BitVec.eq_of_toNat_eq heq)
      · refine .inr ⟨hk, ?_⟩
        rw [BitVec.le_def, BitVec.toNat_and, hpred]
        exact le_sub_one_land (congrArg BitVec.toNat hs) (congrArg BitVec.toNat hk) hlt

theorem mem_subsets : b ∈ a.subsets ↔ b.members ⊆ a.members := by
  have hmem : b ∈ (masksFrom a.mask a.mask).map Modifiers.mk ↔ b.mask ∈ masksFrom a.mask a.mask := by
    constructor
    · intro h
      obtain ⟨m, hm, rfl⟩ := List.mem_map.1 h
      exact hm
    · intro h
      exact List.mem_map.2 ⟨b.mask, h, rfl⟩
  rw [subsets, List.mem_mergeSort, hmem, mem_masksFrom (BitVec.and_self), ← contains_iff, contains, beq_iff_eq,
    BitVec.and_comm]
  refine and_iff_left_of_imp fun hb => ?_
  rw [← hb, BitVec.le_def, BitVec.toNat_and]
  exact Nat.and_le_left

/-! ### The order -/

theorem ranksAbove_iff : a.ranksAbove b = true ↔ b.size < a.size ∨ b.size = a.size ∧ b.mask ≤ a.mask := by
  simp [ranksAbove]

theorem ranksAbove_refl (a : Modifiers) : a.ranksAbove a = true := by
  simp [ranksAbove]

theorem ranksAbove_trans (hab : a.ranksAbove b = true) (hbc : b.ranksAbove c = true) :
    a.ranksAbove c = true := by
  rw [ranksAbove_iff, BitVec.le_def] at *
  omega

theorem ranksAbove_total (a b : Modifiers) : (a.ranksAbove b || b.ranksAbove a) = true := by
  rw [Bool.or_eq_true, ranksAbove_iff, ranksAbove_iff, BitVec.le_def, BitVec.le_def]
  omega

theorem ranksAbove_antisymm (hab : a.ranksAbove b = true) (hba : b.ranksAbove a = true) : a = b := by
  rw [ranksAbove_iff, BitVec.le_def] at *
  obtain ⟨m⟩ := a
  obtain ⟨n⟩ := b
  congr 1
  apply BitVec.eq_of_toNat_eq
  simp only at hab hba
  omega

theorem pairwise_subsets (a : Modifiers) : a.subsets.Pairwise fun b c => b.ranksAbove c = true := by
  rw [subsets]
  refine List.pairwise_mergeSort (fun b c d => ?_) (fun b c => ?_) _
  · exact ranksAbove_trans
  · exact ranksAbove_total b c

end Modifiers

end Scriptlet
