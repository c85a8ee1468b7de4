/-! # Attributes

What a decoration adds to the element that shows it: values by key, kept in the order of the keys. -/

namespace Scriptlet

/-- Attributes of the element that shows a decoration: keys in increasing order, each once. -/
@[ext] structure Attributes where
  entries : List (String × String)
  ordered : entries.Pairwise fun a b => a.1 < b.1
  deriving DecidableEq, Repr

namespace Attributes
variable {es : List (String × String)} {key value : String} {a : String × String}

/-- No attributes. -/
def empty : Attributes := ⟨[], .nil⟩

@[simp] theorem entries_empty : empty.entries = [] := rfl

/-- There are none. -/
def isEmpty (as : Attributes) : Bool := as.entries.isEmpty

/-- What becomes of the attributes, in order. -/
def map {α : Type} (f : String × String → α) (as : Attributes) : List α := as.entries.map f

/-- Sets an entry, keeping the keys in order. -/
def setEntry (key value : String) : List (String × String) → List (String × String)
  | [] => [(key, value)]
  | (k, v) :: rest =>
    if key = k then (key, value) :: rest
    else if key < k then (key, value) :: (k, v) :: rest
    else (k, v) :: setEntry key value rest

/-- Setting an entry leaves those under other keys. -/
theorem mem_setEntry (h : es.Pairwise fun a b => a.1 < b.1) :
    a ∈ setEntry key value es ↔ a = (key, value) ∨ a ∈ es ∧ a.1 ≠ key := by
  induction es with
  | nil => simp [setEntry]
  | cons b bs ih =>
    obtain ⟨k, v⟩ := b
    obtain ⟨hfirst, hbs⟩ := List.pairwise_cons.1 h
    rw [setEntry]
    split
    · rename_i heq
      subst heq
      have hrest : a ∈ bs → a.1 ≠ key := fun ha hk => String.lt_irrefl key (hk ▸ hfirst a ha)
      grind
    split
    · rename_i hne hlt
      have hrest : a ∈ bs → a.1 ≠ key := by
        intro ha hk
        exact String.lt_irrefl key (String.lt_trans hlt (hk ▸ hfirst a ha))
      grind
    · rename_i hne hlt
      have := ih hbs
      grind

theorem ordered_setEntry (key value : String) (h : es.Pairwise fun a b => a.1 < b.1) :
    (setEntry key value es).Pairwise fun a b => a.1 < b.1 := by
  induction es with
  | nil => exact List.pairwise_singleton ..
  | cons b bs ih =>
    obtain ⟨k, v⟩ := b
    obtain ⟨hfirst, hbs⟩ := List.pairwise_cons.1 h
    rw [setEntry]
    split
    · rename_i heq
      exact List.pairwise_cons.2 ⟨fun b hb => heq ▸ hfirst b hb, hbs⟩
    split
    · rename_i hlt
      refine List.pairwise_cons.2 ⟨fun b hb => ?_, h⟩
      rcases List.mem_cons.1 hb with rfl | hb
      · exact hlt
      · exact String.lt_trans hlt (hfirst b hb)
    · rename_i hne hlt
      refine List.pairwise_cons.2 ⟨fun b hb => ?_, ih hbs⟩
      rcases (mem_setEntry hbs).1 hb with rfl | ⟨hb, -⟩
      · exact String.not_le.1 fun hle => hne (String.le_antisymm hle (String.not_lt.1 hlt))
      · exact hfirst b hb

/-- Sets an attribute. -/
def insert (as : Attributes) (key value : String) : Attributes where
  entries := setEntry key value as.entries
  ordered := ordered_setEntry key value as.ordered

/-- The attributes of a list of settings, of which the last for a key holds. -/
def ofList (entries : List (String × String)) : Attributes :=
  entries.foldl (fun as e => as.insert e.1 e.2) empty

end Attributes

end Scriptlet
