/-! # Lists by key

Lists of entries of which each has a key. Where no key stands twice, an entry is found by its key. -/

namespace Scriptlet.Keyed
variable {α κ : Type} [DecidableEq κ] {key : α → κ} {l : List α} {a : α} {k : κ}

/-- The first entry with the key. -/
def find? (key : α → κ) (k : κ) (l : List α) : Option α := l.find? fun a => key a == k

/-- The list with the entry in front, in place of any other with its key. -/
def set (key : α → κ) (a : α) (l : List α) : List α := a :: l.filter fun b => key b != key a

theorem key_of_find? (h : find? key k l = some a) : key a = k := by
  simpa using List.find?_some h

theorem find?_eq_some (h : (l.map key).Nodup) : find? key k l = some a ↔ a ∈ l ∧ key a = k := by
  constructor
  · exact fun hfind => ⟨List.mem_of_find?_eq_some hfind, key_of_find? hfind⟩
  rintro ⟨ha, rfl⟩
  induction l with
  | nil => cases ha
  | cons b bs ih =>
    obtain ⟨hb, hbs⟩ := List.nodup_cons.1 h
    rcases List.mem_cons.1 ha with rfl | ha
    · exact List.find?_cons_of_pos (by simp)
    · have hne : key b ≠ key a := fun heq => hb (heq ▸ List.mem_map_of_mem ha)
      rw [find?, List.find?_cons_of_neg (by simpa using hne)]
      exact ih hbs ha

theorem mem_set {b : α} : b ∈ set key a l ↔ b = a ∨ b ∈ l ∧ key b ≠ key a := by
  simp [set]

theorem nodup_set (key : α → κ) (a : α) (h : (l.map key).Nodup) : ((set key a l).map key).Nodup := by
  refine List.nodup_cons.2 ⟨fun hmem => ?_, h.sublist (List.filter_sublist.map _)⟩
  obtain ⟨b, hb, heq⟩ := List.mem_map.1 hmem
  exact bne_iff_ne.1 (List.mem_filter.1 hb).2 heq

theorem find?_map {f : α → α} (hf : ∀ a, key (f a) = key a) (l : List α) (k : κ) :
    find? key k (l.map f) = (find? key k l).map f := by
  have hsame : (fun a => key a == k) ∘ f = fun a => key a == k := by
    funext a
    rw [Function.comp_apply, hf]
  rw [find?, List.find?_map, hsame, find?]

theorem find?_set (key : α → κ) (a : α) (l : List α) (k : κ) :
    find? key k (set key a l) = if key a = k then some a else find? key k l := by
  rw [find?, set]
  by_cases h : key a = k
  · rw [List.find?_cons_of_pos (by simpa using h), if_pos h]
  · -- the entries that are dropped do not have the key
    have hpass : (fun b => decide ((key b != key a) = true ∧ (key b == k) = true)) = fun b => key b == k := by
      funext b
      by_cases hb : key b = k
      · simp [hb, Ne.symm h]
      · simp [hb]
    rw [List.find?_cons_of_neg (by simpa using h), if_neg h, List.find?_filter, hpass, find?]

end Scriptlet.Keyed
