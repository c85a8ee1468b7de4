import Scriptlet.Proofs.ByteOffsets

/-!
# Offsets asked for in any order

A counter that has been moved about stands where one fresh from the front of the text would stand after the last
move (`moveTo_eq`): a counter between two characters is told by how many are before it (`Placed.ext`). So what was
asked before makes no difference to an answer, and each is what counting all characters gives
(`charsEndingBy_eq_countP`), offsets inside a character and beyond the text included.
-/

namespace Scriptlet.Text

theorem countP_range_lt (n k : Nat) : (List.range n).countP (fun i => i < k) = min n k := by
  induction n with
  | zero => simp
  | succ n ih =>
    rw [List.range_succ, List.countP_append, ih, List.countP_singleton]
    by_cases h : n < k
    · simp only [h, decide_true, if_true]
      omega
    · simp only [h, decide_false, Bool.false_eq_true, if_false]
      omega

/-- Of all characters those are counted whose last byte is among the first `b`. -/
theorem charsEndingBy_eq_countP (text : List Char) (b : Nat) :
    charsEndingBy text b = (List.range text.length).countP fun i => byteOffset text (i + 1) ≤ b := by
  have hfirst : (List.range text.length).countP (fun i => byteOffset text (i + 1) ≤ b) =
      (List.range text.length).countP fun i => i < charsEndingBy text b := by
    refine List.countP_congr fun i hi => ?_
    have hlt : i + 1 ≤ text.length := List.mem_range.1 hi
    rw [decide_eq_true_iff, decide_eq_true_iff, ← le_charsEndingBy_iff hlt]
    exact Iff.rfl
  rw [hfirst, countP_range_lt, Nat.min_eq_right (charsEndingBy_le_length text b)]

/-- All characters end within the text. -/
theorem charsEndingBy_min (text : List Char) (b : Nat) :
    charsEndingBy text (min b (byteLength text)) = charsEndingBy text b := by
  rcases Nat.le_total b (byteLength text) with h | h
  · rw [Nat.min_eq_left h]
  · rw [Nat.min_eq_right h, charsEndingBy_byteLength]
    have hmono := charsEndingBy_mono text h
    rw [charsEndingBy_byteLength] at hmono
    exact Nat.le_antisymm hmono (charsEndingBy_le_length text b)

namespace CharCounter
variable {c c' : CharCounter}

/-- Two counters for one text stand at the same place if they have passed as many characters. -/
theorem Placed.ext (h : c.Placed) (h' : c'.Placed) (htext : c.text = c'.text) (hchars : c.chars = c'.chars) :
    c = c' := by
  obtain ⟨before, ht, hc, hb⟩ := h
  obtain ⟨before', ht', hc', hb'⟩ := h'
  have hsplit : before ++ c.rest = before' ++ c'.rest := by rw [← ht, ← ht', htext]
  obtain ⟨rfl, hrest⟩ := List.append_inj hsplit (by rw [← hc, ← hc', hchars])
  cases c
  cases c'
  simp_all

/-- Where a counter moves to does not depend on where it has been. -/
theorem moveTo_eq (h : c.Placed) (b : Nat) : c.moveTo b = (start c.text).moveTo b := by
  have hstart := placed_start c.text
  refine (placed_moveTo h b).ext (placed_moveTo hstart b) ?_ ?_
  · rw [moveTo_text, moveTo_text, start_text]
  · rw [moveTo_chars h, moveTo_chars hstart, start_text]

/-- The counter after one move for each of the offsets. -/
def visit (c : CharCounter) (offsets : List Nat) : CharCounter :=
  offsets.foldl moveTo c

/-- The offsets, each with what the counter answers when they are asked for one after the other. -/
def asked (c : CharCounter) : List Nat → List (Nat × Nat)
  | [] => []
  | b :: bs => (b, (c.moveTo b).chars) :: asked (c.moveTo b) bs

theorem visit_text (c : CharCounter) (offsets : List Nat) : (c.visit offsets).text = c.text := by
  induction offsets generalizing c with
  | nil => rfl
  | cons b bs ih => exact (ih (c.moveTo b)).trans (moveTo_text c b)

theorem placed_visit (h : c.Placed) (offsets : List Nat) : (c.visit offsets).Placed := by
  induction offsets generalizing c with
  | nil => exact h
  | cons b bs ih => exact ih (placed_moveTo h b)

theorem asked_eq_map (h : c.Placed) (offsets : List Nat) :
    c.asked offsets = offsets.map fun b => (b, charsEndingBy c.text b) := by
  induction offsets generalizing c with
  | nil => rfl
  | cons b bs ih => rw [asked, moveTo_chars h, ih (placed_moveTo h b), moveTo_text, List.map_cons]

/-- Offsets may be asked for in any order, inside characters and beyond the text: whatever came before, the counter
moves as from the front of the text and answers with the number of characters that end at or before the offset.
So what is asked for further on is answered with no less, the front with none and the end with all. -/
theorem asked_direct (text : List Char) (offsets : List Nat) :
    (∀ b, ((start text).visit offsets).moveTo b = (start text).moveTo b) ∧
      (start text).asked offsets = offsets.map (fun b => (b,
        (List.range text.length).countP fun i => byteOffset text (i + 1) ≤ min b (byteLength text))) ∧
      (∀ p ∈ (start text).asked offsets, ∀ q ∈ (start text).asked offsets, p.1 ≤ q.1 → p.2 ≤ q.2) ∧
      (∀ n, (0, n) ∈ (start text).asked offsets → n = 0) ∧
      ∀ n, (byteLength text, n) ∈ (start text).asked offsets → n = text.length := by
  have hplaced := placed_start text
  have hasked := asked_eq_map hplaced offsets
  rw [start_text] at hasked
  have hanswer : ∀ p ∈ (start text).asked offsets, p.2 = charsEndingBy text p.1 := by
    intro p hp
    rw [hasked] at hp
    obtain ⟨b, -, rfl⟩ := List.mem_map.1 hp
    rfl
  refine ⟨fun b => ?_, ?_, ?_, ?_, ?_⟩
  · rw [moveTo_eq (placed_visit hplaced offsets), visit_text, start_text]
  · rw [hasked]
    refine List.map_congr_left fun b _ => ?_
    rw [← charsEndingBy_eq_countP, charsEndingBy_min]
  · intro p hp q hq hle
    rw [hanswer p hp, hanswer q hq]
    exact charsEndingBy_mono text hle
  · intro n hn
    exact (hanswer _ hn).trans (charsEndingBy_zero text)
  · intro n hn
    exact (hanswer _ hn).trans (charsEndingBy_byteLength text)

end CharCounter

end Scriptlet.Text
