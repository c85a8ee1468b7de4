import Mathlib
import Scriptlet.Proofs.ModifierSubsets
import Scriptlet.Style.Table

/-!
# Which rule gives a tag its class

A table is `Made` by adding rules, and its rule for a tag is the one added last (`Made.rule?_eq`). Of the rules
that cover a tag, at an ancestor and with some of its modifiers, one prevails: it is at the nearest ancestor,
and there it has the most modifiers, or the largest mask if others have as many. The two searches of
`classFor` go through the rules that cover the tag in just this order, so the first they meet is that one
(`classFor_made`).
-/

namespace Scriptlet

/-! ### The ancestors of a tag -/

namespace Tag

/-- The tag that many parents up. -/
def ancestor? : Nat → Tag → Option Tag
  | 0, t => some t
  | n + 1, t => t.parent.bind (ancestor? n)

theorem getElem?_ancestry (t : Tag) (n : Nat) : t.ancestry[n]? = t.ancestor? n := by
  induction n generalizing t with
  | zero =>
    rw [ancestry_eq]
    rfl
  | succ n ih =>
    rw [ancestry_eq, List.getElem?_cons_succ, ancestor?]
    cases t.parent with
    | none => rfl
    | some p => exact ih p

theorem mem_ancestry {t base : Tag} : base ∈ t.ancestry ↔ ∃ n, t.ancestor? n = some base := by
  simp only [List.mem_iff_getElem?, getElem?_ancestry]

end Tag

/-- The tag `u` is `t` itself or one it falls back to: an ancestor, `n` parents up, with some of the modifiers
of `t`. -/
def StyleTag.Covers (n : Nat) (u t : StyleTag) : Prop :=
  t.tag.ancestor? n = some u.tag ∧ u.modifiers.members ⊆ t.modifiers.members

namespace StyleTable

/-! ### Rules that are added -/

/-- The table is the empty or the standard one with the rules added in order. Those of the standard table
count as added. -/
inductive Made : StyleTable → List (StyleTag × String) → Prop
  | empty : Made .empty []
  | standard : Made .standard standardRules
  | insert {s : StyleTable} {rules : List (StyleTag × String)} (h : Made s rules) (t : StyleTag) (cls : String) :
    Made (s.insert t cls) (rules ++ [(t, cls)])

/-- One of the rules is for the tag. -/
def Ruled (rules : List (StyleTag × String)) (t : StyleTag) : Prop := ∃ cls, (t, cls) ∈ rules

/-- The class that the last of the rules for the tag gives. -/
def lastClass? (rules : List (StyleTag × String)) (t : StyleTag) : Option String :=
  (rules.reverse.find? fun r => r.1 == t).map (·.2)

variable {s : StyleTable} {rules : List (StyleTag × String)} {t u : StyleTag} {cls : String}

theorem lastClass?_concat (rules : List (StyleTag × String)) (t : StyleTag) (cls : String) (u : StyleTag) :
    lastClass? (rules ++ [(t, cls)]) u = if t = u then some cls else lastClass? rules u := by
  rw [lastClass?, List.reverse_concat]
  by_cases h : t = u
  · rw [List.find?_cons_of_pos (by simpa using h), if_pos h]
    rfl
  · rw [List.find?_cons_of_neg (by simpa using h), if_neg h]
    rfl

theorem isSome_lastClass? : (lastClass? rules t).isSome = true ↔ Ruled rules t := by
  simp [lastClass?, Ruled]

theorem rule?_foldl_insert (rules : List (StyleTag × String)) (u : StyleTag) :
    (rules.foldl (fun s r => s.insert r.1 r.2) empty).rule? u = lastClass? rules u := by
  induction rules using List.reverseRecOn with
  | nil => rfl
  | append_singleton rules r ih => rw [List.foldl_concat, rule?_insert, ih, lastClass?_concat]

/-- The rule of a table for a tag is the last that was added for it. -/
theorem Made.rule?_eq (h : s.Made rules) (u : StyleTag) : s.rule? u = lastClass? rules u := by
  induction h with
  | empty => rfl
  | standard => exact rule?_foldl_insert standardRules u
  | insert _ t cls ih => rw [rule?_insert, lastClass?_concat, ih]

theorem Made.isSome_rule? (h : s.Made rules) : (s.rule? u).isSome = true ↔ Ruled rules u := by
  rw [h.rule?_eq, isSome_lastClass?]

/-! ### The rule that prevails -/

/-- Of the rules that cover `t` the one for `u`, `n` parents up, is at the nearest tag, and of those for this
tag it has the most modifiers, or as many as any other and the largest mask. -/
structure Prevails (rules : List (StyleTag × String)) (t u : StyleTag) (n : Nat) : Prop where
  ruled : Ruled rules u
  covers : u.Covers n t
  nearest : ∀ v k, Ruled rules v → v.Covers k t → n ≤ k
  largest : ∀ v, Ruled rules v → v.Covers n t → v.modifiers.members.card < u.modifiers.members.card ∨
    v.modifiers.members.card = u.modifiers.members.card ∧ v.modifiers.mask ≤ u.modifiers.mask

section
variable {α β : Type} {f g : α → Option β} {l : List α} {b : β}

theorem findSome?_congr (h : ∀ x ∈ l, f x = g x) : l.findSome? f = l.findSome? g := by
  rw [← List.head?_filterMap, ← List.head?_filterMap, List.filterMap_congr h]

/-- In an ordered list the first that has a value stands above all that have one. -/
theorem above_of_findSome? {r : α → α → Prop} (hrefl : ∀ x, r x x) (hl : l.Pairwise r)
    (h : l.findSome? f = some b) : ∃ a ∈ l, f a = some b ∧ ∀ x ∈ l, (f x).isSome = true → r a x := by
  obtain ⟨before, a, behind, rfl, hfa, hbefore⟩ := List.findSome?_eq_some_iff.1 h
  obtain ⟨-, habove, -⟩ := List.pairwise_append.1 hl
  refine ⟨a, by simp, hfa, fun x hx hfx => ?_⟩
  rcases List.mem_append.1 hx with hx | hx
  · rw [hbefore x hx] at hfx
    cases hfx
  · rcases List.mem_cons.1 hx with rfl | hx
    · exact hrefl x
    · exact (List.pairwise_cons.1 habove).1 x hx

theorem findSome?_eq_some_iff_above {r : α → α → Prop} (hrefl : ∀ x, r x x)
    (hanti : ∀ x y, r x y → r y x → x = y) (hl : l.Pairwise r) :
    l.findSome? f = some b ↔ ∃ a ∈ l, f a = some b ∧ ∀ x ∈ l, (f x).isSome = true → r a x := by
  refine ⟨above_of_findSome? hrefl hl, ?_⟩
  rintro ⟨a, ha, hfa, habove⟩
  cases hfirst : l.findSome? f with
  | none =>
    rw [List.findSome?_eq_none_iff.1 hfirst a ha] at hfa
    cases hfa
  | some c =>
    obtain ⟨a', ha', hfa', habove'⟩ := above_of_findSome? hrefl hl hfirst
    have haa' := habove a' ha' (by rw [hfa']; rfl)
    have ha'a := habove' a ha (by rw [hfa]; rfl)
    rw [hanti a a' haa' ha'a, hfa'] at hfa
    exact hfa

theorem findSome?_eq_some_iff_getElem? :
    l.findSome? f = some b ↔
      ∃ (n : Nat) (a : α), l[n]? = some a ∧ f a = some b ∧
        ∀ (k : Nat) (x : α), k < n → l[k]? = some x → f x = none := by
  rw [List.findSome?_eq_some_iff]
  constructor
  · rintro ⟨before, a, behind, rfl, hfa, hbefore⟩
    refine ⟨before.length, a, by simp, hfa, fun k x hk hx => hbefore x ?_⟩
    rw [List.getElem?_append_left hk] at hx
    exact List.mem_of_getElem? hx
  · rintro ⟨n, a, ha, hfa, hbefore⟩
    obtain ⟨hn, rfl⟩ := List.getElem?_eq_some_iff.1 ha
    refine ⟨l.take n, l[n], l.drop (n + 1), ?_, hfa, fun x hx => ?_⟩
    · rw [← List.drop_eq_getElem_cons hn, List.take_append_drop]
    · obtain ⟨k, hk, rfl⟩ := List.mem_take_iff_getElem.1 hx
      exact hbefore k _ (by omega) (List.getElem?_eq_getElem (by omega))

end

/-- The class that the rules for the tag `base` give to some of the modifiers. -/
theorem findSome?_subsets {base : Tag} {m : Modifiers} :
    (m.subsets.findSome? fun k => s.rule? ⟨base, k⟩) = some cls ↔
      ∃ k, k.members ⊆ m.members ∧ s.rule? ⟨base, k⟩ = some cls ∧
        ∀ k', k'.members ⊆ m.members → (s.rule? ⟨base, k'⟩).isSome = true → k.ranksAbove k' = true := by
  rw [findSome?_eq_some_iff_above Modifiers.ranksAbove_refl (fun _ _ => Modifiers.ranksAbove_antisymm)
    m.pairwise_subsets]
  simp only [Modifiers.mem_subsets]

/-- The class of a tag depends on the rules only that cover it. -/
theorem classFor_congr {s' : StyleTable} (h : ∀ u n, u.Covers n t → s.rule? u = s'.rule? u) :
    s.classFor t = s'.classFor t := by
  rw [classFor, classFor]
  refine findSome?_congr fun base hbase => findSome?_congr fun m hm => ?_
  obtain ⟨n, hn⟩ := Tag.mem_ancestry.1 hbase
  exact h ⟨base, m⟩ n ⟨hn, Modifiers.mem_subsets.1 hm⟩

theorem classFor_eq_none_iff : s.classFor t = none ↔ ∀ u n, u.Covers n t → s.rule? u = none := by
  rw [classFor]
  simp only [List.findSome?_eq_none_iff, Tag.mem_ancestry, Modifiers.mem_subsets]
  constructor
  · rintro h ⟨base, k⟩ n ⟨hbase, hk⟩
    exact h base ⟨n, hbase⟩ k hk
  · rintro h base ⟨n, hbase⟩ k hk
    exact h ⟨base, k⟩ n ⟨hbase, hk⟩

theorem Made.classFor_eq_some_iff (h : s.Made rules) :
    s.classFor t = some cls ↔ ∃ u n, Prevails rules t u n ∧ s.rule? u = some cls := by
  rw [classFor, findSome?_eq_some_iff_getElem?]
  simp only [Tag.getElem?_ancestry, findSome?_subsets]
  constructor
  · rintro ⟨n, base, hbase, ⟨m, hm, hrule, habove⟩, hbefore⟩
    refine ⟨⟨base, m⟩, n, ⟨?_, ⟨hbase, hm⟩, fun v k hv hcovers => ?_, fun v hv hcovers => ?_⟩, hrule⟩
    · rw [← h.isSome_rule?, hrule]
      rfl
    · -- a nearer tag has no rule that covers `t`
      refine Nat.le_of_not_lt fun hk => ?_
      have hnone := List.findSome?_eq_none_iff.1 (hbefore k v.tag hk hcovers.1) v.modifiers
        (Modifiers.mem_subsets.2 hcovers.2)
      have hsome := h.isSome_rule?.2 hv
      rw [show s.rule? v = none from hnone] at hsome
      cases hsome
    · have hsame : base = v.tag := Option.some.inj (hbase.symm.trans hcovers.1)
      subst hsame
      have := habove v.modifiers hcovers.2 (h.isSome_rule?.2 hv)
      rwa [Modifiers.ranksAbove_iff, Modifiers.size_eq_card, Modifiers.size_eq_card] at this
  · rintro ⟨⟨base, m⟩, n, hprevails, hrule⟩
    obtain ⟨hbase, hm⟩ := hprevails.covers
    refine ⟨n, base, hbase, ⟨m, hm, hrule, fun k hk hsome => ?_⟩, fun k base' hk hbase' => ?_⟩
    · have := hprevails.largest ⟨base, k⟩ (h.isSome_rule?.1 hsome) ⟨hbase, hk⟩
      rwa [Modifiers.ranksAbove_iff, Modifiers.size_eq_card, Modifiers.size_eq_card]
    · refine List.findSome?_eq_none_iff.2 fun m' hm' => ?_
      cases hrule' : s.rule? ⟨base', m'⟩ with
      | none => rfl
      | some cls' =>
        have hruled := h.isSome_rule?.1 (show (s.rule? ⟨base', m'⟩).isSome = true by rw [hrule']; rfl)
        have := hprevails.nearest ⟨base', m'⟩ k hruled ⟨hbase', Modifiers.mem_subsets.1 hm'⟩
        omega

/-- The class of a tag is that of the rule that prevails; without one there is no class. What is added for `u`
changes the class of those tags at most that `u` covers. -/
theorem classFor_made (h : s.Made rules) (t : StyleTag) :
    (∀ cls, s.classFor t = some cls ↔ ∃ u n, Prevails rules t u n ∧ lastClass? rules u = some cls) ∧
      (s.classFor t = none ↔ ¬∃ u n, Ruled rules u ∧ u.Covers n t) ∧
      ∀ u cls, (s.insert u cls).classFor t ≠ s.classFor t → ∃ n, u.Covers n t := by
  refine ⟨fun cls => ?_, ?_, fun u cls hchanged => ?_⟩
  · simp only [h.classFor_eq_some_iff, h.rule?_eq]
  · rw [classFor_eq_none_iff]
    constructor
    · rintro hnone ⟨u, n, hruled, hcovers⟩
      rw [← h.isSome_rule?, hnone u n hcovers] at hruled
      cases hruled
    · intro hno u n hcovers
      by_contra hrule
      exact hno ⟨u, n, h.isSome_rule?.1 (Option.isSome_iff_ne_none.2 hrule), hcovers⟩
  · by_contra hno
    refine hchanged (classFor_congr fun v n hcovers => ?_)
    rw [rule?_insert, if_neg]
    rintro rfl
    exact hno ⟨n, hcovers⟩

/-- The standard table with a class for local definitions of variables. -/
def localDefinitions : StyleTable :=
  standard.insert ⟨.variableName, .union .definition .localScope⟩ "cm-inner"

/-- A variable that is defined as a local function has three rules, two of them with two modifiers; that with
the larger mask counts, and it is the one that was added. -/
theorem classFor_made_localFunction :
    localDefinitions.Made (standardRules ++ [(⟨.variableName, .union .definition .localScope⟩, "cm-inner")]) ∧
      localDefinitions.classFor ⟨.variableName, .union .function (.union .definition .localScope)⟩ = some "cm-inner" ∧
      ∃ u n, Prevails (standardRules ++ [(⟨.variableName, .union .definition .localScope⟩, "cm-inner")])
        ⟨.variableName, .union .function (.union .definition .localScope)⟩ u n ∧
        lastClass? (standardRules ++ [(⟨.variableName, .union .definition .localScope⟩, "cm-inner")]) u =
          some "cm-inner" := by
  have hmade := Made.standard.insert ⟨.variableName, .union .definition .localScope⟩ "cm-inner"
  have hclass : localDefinitions.classFor ⟨.variableName, .union .function (.union .definition .localScope)⟩ =
      some "cm-inner" := by cbv
  exact ⟨hmade, hclass, ((classFor_made hmade _).1 "cm-inner").1 hclass⟩

end StyleTable

end Scriptlet
