import Scriptlet.Decoration.Basic

/-!
# What is kept in order

A builder refuses whatever comes before its last anchor. So of all that it is offered it keeps the greedy
subsequence in order, `rising`: each item whose anchor is below none kept so far (`items_foldl_offer`). What
has been offered counts for what comes later by its largest anchor alone (`risingFrom_append`), so items up
to a place make no difference behind it (`rising_without`).
-/

namespace Scriptlet

variable {α β : Type} [Anchored α] [Anchored β]

/-- Keeps each item whose anchor is not below that of one kept before. -/
def rising (items : List α) : List α :=
  items.foldl (fun kept a => if ∀ k ∈ kept, anchor k ≤ anchor a then kept ++ [a] else kept) []

/-- Keeps each item whose anchor is not below the largest so far. -/
def risingFrom (last : Nat) : List α → List α
  | [] => []
  | a :: as => if last ≤ anchor a then a :: risingFrom (anchor a) as else risingFrom last as

/-- The largest anchor of all, the given one included. -/
def topAnchor (last : Nat) (items : List α) : Nat :=
  items.foldl (fun n a => max n (anchor a)) last

theorem topAnchor_le_iff {last n : Nat} {items : List α} :
    topAnchor last items ≤ n ↔ last ≤ n ∧ ∀ a ∈ items, anchor a ≤ n := by
  induction items generalizing last with
  | nil => simp [topAnchor]
  | cons a as ih =>
    rw [show topAnchor last (a :: as) = topAnchor (max last (anchor a)) as from rfl, ih, Nat.max_le]
    simp [and_assoc]

theorem le_topAnchor (last : Nat) (items : List α) : last ≤ topAnchor last items :=
  (topAnchor_le_iff.1 (Nat.le_refl _)).1

/-! ### The subsequence -/

theorem rising_eq (items : List α) : rising items = risingFrom 0 items := by
  -- the bound stands for what has been kept: it is at most a number just if all those anchors are
  suffices h : ∀ (kept : List α) last, (∀ n, last ≤ n ↔ ∀ k ∈ kept, anchor k ≤ n) →
      items.foldl (fun kept a => if ∀ k ∈ kept, anchor k ≤ anchor a then kept ++ [a] else kept) kept =
        kept ++ risingFrom last items by
    exact h [] 0 (by simp)
  induction items with
  | nil => simp [risingFrom]
  | cons a as ih =>
    intro kept last hlast
    rw [List.foldl_cons, risingFrom]
    by_cases ha : last ≤ anchor a
    · rw [if_pos ((hlast _).1 ha), if_pos ha, ih (kept ++ [a]) (anchor a), List.append_assoc]
      · rfl
      · intro n
        constructor
        · intro hn k hk
          rcases List.mem_append.1 hk with hk | hk
          · exact Nat.le_trans ((hlast _).1 ha k hk) hn
          · rwa [List.mem_singleton.1 hk]
        · intro hn
          exact hn a (by simp)
    · rw [if_neg (fun h => ha ((hlast _).2 h)), if_neg ha, ih kept last hlast]

theorem risingFrom_append (last : Nat) (as bs : List α) :
    risingFrom last (as ++ bs) = risingFrom last as ++ risingFrom (topAnchor last as) bs := by
  induction as generalizing last with
  | nil => rfl
  | cons a as ih =>
    simp only [List.cons_append, risingFrom]
    rw [show topAnchor last (a :: as) = topAnchor (max last (anchor a)) as from rfl]
    split
    · rw [ih, Nat.max_eq_right ‹_›]
      rfl
    · rw [ih, Nat.max_eq_left (by omega)]

/-- Two bounds that everything is at or behind make no difference. -/
theorem risingFrom_congr {m n : Nat} {items : List α} (hm : ∀ a ∈ items, m ≤ anchor a)
    (hn : ∀ a ∈ items, n ≤ anchor a) : risingFrom m items = risingFrom n items := by
  cases items with
  | nil => rfl
  | cons a as => rw [risingFrom, risingFrom, if_pos (hm a (by simp)), if_pos (hn a (by simp))]

theorem sublist_risingFrom (last : Nat) (items : List α) : (risingFrom last items).Sublist items := by
  induction items generalizing last with
  | nil => exact .slnil
  | cons a as ih =>
    rw [risingFrom]
    split
    · exact (ih _).cons_cons a
    · exact (ih _).cons a

theorem sublist_rising (items : List α) : (rising items).Sublist items := by
  rw [rising_eq]
  exact sublist_risingFrom 0 items

theorem map_risingFrom {f : α → β} (hf : ∀ a, anchor (f a) = anchor a) (last : Nat) (items : List α) :
    (risingFrom last items).map f = risingFrom last (items.map f) := by
  induction items generalizing last with
  | nil => rfl
  | cons a as ih =>
    rw [List.map_cons, risingFrom, risingFrom, hf]
    split
    · rw [List.map_cons, ih]
    · exact ih _

theorem map_rising {f : α → β} (hf : ∀ a, anchor (f a) = anchor a) (items : List α) :
    (rising items).map f = rising (items.map f) := by
  rw [rising_eq, rising_eq, map_risingFrom hf]

/-- What comes before a place can be left out and nothing changes behind that place. -/
theorem rising_without (as : List α) {bs cs : List α} {place : Nat} (hbs : ∀ b ∈ bs, anchor b ≤ place)
    (hcs : ∀ c ∈ cs, place ≤ anchor c) : ∃ kept rest, kept.Sublist bs ∧ rest.Sublist cs ∧
    rising (as ++ bs ++ cs) = rising as ++ kept ++ rest ∧ rising (as ++ cs) = rising as ++ rest := by
  refine ⟨risingFrom (topAnchor 0 as) bs, risingFrom (topAnchor 0 as) cs, sublist_risingFrom _ _,
    sublist_risingFrom _ _, ?_, ?_⟩
  · rw [rising_eq, rising_eq, List.append_assoc, risingFrom_append, risingFrom_append, ← List.append_assoc]
    congr 1
    rcases Nat.lt_or_ge place (topAnchor 0 as) with hlt | hge
    · -- none of those in the middle is kept
      have hle : topAnchor (topAnchor 0 as) bs ≤ topAnchor 0 as :=
        topAnchor_le_iff.2 ⟨Nat.le_refl _, fun b hb => Nat.le_trans (hbs b hb) (Nat.le_of_lt hlt)⟩
      rw [Nat.le_antisymm hle (le_topAnchor _ _)]
    · have hle : topAnchor (topAnchor 0 as) bs ≤ place := topAnchor_le_iff.2 ⟨hge, hbs⟩
      exact risingFrom_congr (fun c hc => Nat.le_trans hle (hcs c hc)) fun c hc => Nat.le_trans hge (hcs c hc)
  · rw [rising_eq, rising_eq, risingFrom_append]

/-! ### Builders -/

namespace SetBuilder
variable {b : SetBuilder α}

/-- Takes in an item unless it comes too late. -/
def offer (b : SetBuilder α) (a : α) : SetBuilder α :=
  if b.last ≤ anchor a then ⟨b.items.push a, anchor a⟩ else b

theorem foldl_offer (b : SetBuilder α) (items : List α) :
    (items.foldl offer b).items.toList = b.items.toList ++ risingFrom b.last items := by
  induction items generalizing b with
  | nil => simp [risingFrom]
  | cons a as ih =>
    rw [List.foldl_cons, ih, offer, risingFrom]
    split
    · simp
    · rfl

theorem items_foldl_offer (items : List α) : (items.foldl offer ({} : SetBuilder α)).items.toList = rising items := by
  rw [foldl_offer, rising_eq]
  rfl

/-- The items are in order and the last anchor is the largest. -/
structure InOrder (b : SetBuilder α) : Prop where
  pairwise : b.items.toList.Pairwise fun x y => anchor x ≤ anchor y
  le : ∀ a ∈ b.items.toList, anchor a ≤ b.last

theorem inOrder_empty : InOrder ({} : SetBuilder α) :=
  ⟨.nil, fun _ h => absurd h (by simp)⟩

theorem InOrder.offer (h : b.InOrder) (a : α) : (b.offer a).InOrder := by
  unfold SetBuilder.offer
  split
  · rename_i ha
    constructor
    · rw [Array.toList_push]
      refine List.pairwise_append.2 ⟨h.pairwise, List.pairwise_singleton _ _, ?_⟩
      intro x hx y hy
      rw [List.mem_singleton.1 hy]
      exact Nat.le_trans (h.le x hx) ha
    · intro x hx
      rw [Array.toList_push] at hx
      rcases List.mem_append.1 hx with hx | hx
      · exact Nat.le_trans (h.le x hx) ha
      · exact Nat.le_of_eq (congrArg anchor (List.mem_singleton.1 hx))
  · exact h

theorem InOrder.foldl_offer (h : b.InOrder) (items : List α) : (items.foldl SetBuilder.offer b).InOrder := by
  induction items generalizing b with
  | nil => exact h
  | cons a as ih => exact ih (h.offer a)

end SetBuilder

theorem pairwise_rising (items : List α) : (rising items).Pairwise fun x y => anchor x ≤ anchor y := by
  rw [← SetBuilder.items_foldl_offer]
  exact (SetBuilder.inOrder_empty.foldl_offer items).pairwise

end Scriptlet
