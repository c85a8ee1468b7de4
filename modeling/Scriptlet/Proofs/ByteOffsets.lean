import Scriptlet.Text.CharCounter

/-!
# Byte offsets and character offsets

`byteOffset text` maps the characters of a text to the bytes they start at, and `charsEndingBy text`
maps bytes back: it is the lower adjoint side (`le_charsEndingBy_iff`), so it undoes `byteOffset`
(`charsEndingBy_byteOffset`) and rounds everything else down to a boundary.

A counter gives these answers whatever it was asked before (`moveTo_chars`): `Placed`, which says that
it stands between two characters of its text, is kept by every move.
-/

namespace Scriptlet.Text

/-! ### Lengths -/

@[simp] theorem byteLength_nil : byteLength [] = 0 := rfl

@[simp] theorem byteLength_cons (c : Char) (cs : List Char) :
    byteLength (c :: cs) = c.utf8Size + byteLength cs := rfl

@[simp] theorem byteLength_append (u v : List Char) :
    byteLength (u ++ v) = byteLength u + byteLength v := by
  induction u with
  | nil => simp
  | cons c cs ih => simp [ih, Nat.add_assoc]

/-- The byte offset of the character of the given number. -/
def byteOffset (text : List Char) (i : Nat) : Nat := byteLength (text.take i)

@[simp] theorem byteOffset_zero (text : List Char) : byteOffset text 0 = 0 := by simp [byteOffset]

@[simp] theorem byteOffset_length (text : List Char) : byteOffset text text.length = byteLength text := by
  simp [byteOffset]

theorem byteOffset_succ_cons (c : Char) (cs : List Char) (i : Nat) :
    byteOffset (c :: cs) (i + 1) = c.utf8Size + byteOffset cs i := by simp [byteOffset]

theorem byteOffset_append_left {u : List Char} {i : Nat} (h : i ≤ u.length) (v : List Char) :
    byteOffset (u ++ v) i = byteOffset u i := by
  rw [byteOffset, List.take_append_of_le_length h, byteOffset]

theorem byteOffset_append_right (u v : List Char) (i : Nat) :
    byteOffset (u ++ v) (u.length + i) = byteLength u + byteOffset v i := by
  rw [byteOffset, List.take_length_add_append, byteLength_append, byteOffset]

theorem byteOffset_mono (text : List Char) {i j : Nat} (h : i ≤ j) :
    byteOffset text i ≤ byteOffset text j := by
  have htake : (text.take j).take i = text.take i := by rw [List.take_take, Nat.min_eq_left h]
  have hsplit := congrArg byteLength (List.take_append_drop i (text.take j))
  rw [byteLength_append, htake] at hsplit
  unfold byteOffset; omega

theorem byteOffset_le {text : List Char} {i : Nat} (h : i ≤ text.length) :
    byteOffset text i ≤ byteLength text := by
  rw [← byteOffset_length]
  exact byteOffset_mono text h

theorem byteOffset_lt_succ {text : List Char} {i : Nat} (h : i < text.length) :
    byteOffset text i < byteOffset text (i + 1) := by
  have := (text[i]).utf8Size_pos
  unfold byteOffset
  rw [List.take_succ_eq_append_getElem h, byteLength_append]
  simp only [byteLength_cons, byteLength_nil]; omega

/-! ### From bytes to characters -/

@[simp] theorem charsEndingBy_nil (b : Nat) : charsEndingBy [] b = 0 := rfl

theorem charsEndingBy_cons_of_le {c : Char} (cs : List Char) {b : Nat} (h : c.utf8Size ≤ b) :
    charsEndingBy (c :: cs) b = 1 + charsEndingBy cs (b - c.utf8Size) := by simp [charsEndingBy, h]

theorem charsEndingBy_cons_of_lt {c : Char} (cs : List Char) {b : Nat} (h : b < c.utf8Size) :
    charsEndingBy (c :: cs) b = 0 := by simp [charsEndingBy, Nat.not_le.2 h]

/-- A character number is reached by `b` bytes when its offset is. -/
theorem le_charsEndingBy_iff {text : List Char} {i : Nat} (hi : i ≤ text.length) (b : Nat) :
    i ≤ charsEndingBy text b ↔ byteOffset text i ≤ b := by
  induction text generalizing i b with
  | nil =>
    have : i = 0 := by simpa using hi
    subst this; simp
  | cons c cs ih =>
    cases i with
    | zero => simp
    | succ i =>
      have hi' : i ≤ cs.length := by simpa using hi
      rw [byteOffset_succ_cons]
      by_cases h : c.utf8Size ≤ b
      · rw [charsEndingBy_cons_of_le cs h]
        have := ih hi' (b - c.utf8Size)
        omega
      · rw [charsEndingBy_cons_of_lt cs (by omega)]
        omega

theorem charsEndingBy_le_length (text : List Char) (b : Nat) :
    charsEndingBy text b ≤ text.length := by
  induction text generalizing b with
  | nil => simp
  | cons c cs ih =>
    by_cases h : c.utf8Size ≤ b
    · rw [charsEndingBy_cons_of_le cs h, List.length_cons]
      have := ih (b - c.utf8Size)
      omega
    · rw [charsEndingBy_cons_of_lt cs (by omega)]; omega

theorem charsEndingBy_mono (text : List Char) {a b : Nat} (h : a ≤ b) :
    charsEndingBy text a ≤ charsEndingBy text b := by
  have ha := charsEndingBy_le_length text a
  rw [le_charsEndingBy_iff ha]
  exact Nat.le_trans ((le_charsEndingBy_iff ha a).1 (Nat.le_refl _)) h

@[simp] theorem charsEndingBy_byteOffset {text : List Char} {i : Nat} (hi : i ≤ text.length) :
    charsEndingBy text (byteOffset text i) = i := by
  have hle : i ≤ charsEndingBy text (byteOffset text i) := (le_charsEndingBy_iff hi _).2 (Nat.le_refl _)
  rcases Nat.eq_or_lt_of_le hle with h | h
  · exact h.symm
  · have hlt : i < text.length := Nat.lt_of_lt_of_le h (charsEndingBy_le_length text _)
    have hsucc : byteOffset text (i + 1) ≤ byteOffset text i := (le_charsEndingBy_iff hlt _).1 h
    have := byteOffset_lt_succ hlt
    omega

@[simp] theorem charsEndingBy_zero (text : List Char) : charsEndingBy text 0 = 0 := by
  simpa using charsEndingBy_byteOffset (Nat.zero_le text.length)

@[simp] theorem charsEndingBy_byteLength (text : List Char) :
    charsEndingBy text (byteLength text) = text.length := by
  simpa using charsEndingBy_byteOffset (Nat.le_refl text.length)

theorem charsEndingBy_append (u v : List Char) {b : Nat} (h : byteLength u ≤ b) :
    charsEndingBy (u ++ v) b = u.length + charsEndingBy v (b - byteLength u) := by
  induction u generalizing b with
  | nil => simp
  | cons c cs ih =>
    rw [byteLength_cons] at h
    rw [List.cons_append, charsEndingBy_cons_of_le _ (by omega), ih (by omega), byteLength_cons,
      List.length_cons, Nat.sub_sub]
    omega

theorem charsStartingBefore_byteOffset {text : List Char} {i : Nat} (hi : i ≤ text.length) :
    charsStartingBefore text (byteOffset text i) = i := by
  induction text generalizing i with
  | nil => exact (Nat.le_zero.1 hi).symm
  | cons c cs ih =>
    cases i with
    | zero => rfl
    | succ i =>
      have hpos := c.utf8Size_pos
      obtain ⟨b, hb⟩ : ∃ b, byteOffset (c :: cs) (i + 1) = b + 1 :=
        ⟨byteOffset (c :: cs) (i + 1) - 1, by rw [byteOffset_succ_cons]; omega⟩
      have hrest : b + 1 - c.utf8Size = byteOffset cs i := by
        rw [← hb, byteOffset_succ_cons]; omega
      rw [hb, charsStartingBefore, hrest, ih (Nat.le_of_succ_le_succ hi)]
      omega

theorem splitAtByte?_byteLength (u v : List Char) : splitAtByte? (u ++ v) (byteLength u) = some (u, v) := by
  induction u with
  | nil => simp [splitAtByte?]
  | cons c cs ih =>
    have hpos := c.utf8Size_pos
    obtain ⟨b, hb⟩ : ∃ b, byteLength (c :: cs) = b + 1 :=
      ⟨byteLength (c :: cs) - 1, by rw [byteLength_cons]; omega⟩
    have hrest : b + 1 - c.utf8Size = byteLength cs := by
      rw [← hb, byteLength_cons, Nat.add_sub_cancel_left]
    rw [hb, List.cons_append, splitAtByte?, if_pos (by rw [← hb, byteLength_cons]; omega), hrest, ih]
    rfl

/-- Different characters start at different bytes. -/
theorem byteOffset_inj {text : List Char} {i j : Nat} (hi : i ≤ text.length) (hj : j ≤ text.length)
    (h : byteOffset text i = byteOffset text j) : i = j := by
  rw [← charsEndingBy_byteOffset hi, h, charsEndingBy_byteOffset hj]

/-! ### Boundaries -/

/-- The byte offset lies between two characters of the text, or at one of its ends. -/
def Boundary (text : List Char) (b : Nat) : Prop := ∃ i ≤ text.length, byteOffset text i = b

namespace Boundary
variable {text : List Char} {a b : Nat}

theorem zero (text : List Char) : Boundary text 0 := ⟨0, Nat.zero_le _, byteOffset_zero text⟩

theorem byteLength (text : List Char) : Boundary text (byteLength text) :=
  ⟨text.length, Nat.le_refl _, byteOffset_length text⟩

theorem le (h : Boundary text b) : b ≤ Text.byteLength text := by
  obtain ⟨i, hi, rfl⟩ := h
  exact byteOffset_le hi

theorem byteOffset_charsEndingBy (h : Boundary text b) : byteOffset text (charsEndingBy text b) = b := by
  obtain ⟨i, hi, rfl⟩ := h
  rw [charsEndingBy_byteOffset hi]

theorem charsEndingBy_lt (ha : Boundary text a) (hb : Boundary text b) (h : a < b) :
    charsEndingBy text a < charsEndingBy text b := by
  refine Nat.lt_of_le_of_ne (charsEndingBy_mono text (Nat.le_of_lt h)) fun he => ?_
  have := congrArg (byteOffset text) he
  rw [ha.byteOffset_charsEndingBy, hb.byteOffset_charsEndingBy] at this
  omega

/-- A boundary is not inside a character. -/
theorem before_or_after (h : Boundary text b) (i : Nat) :
    b ≤ byteOffset text i ∨ byteOffset text (i + 1) ≤ b := by
  obtain ⟨j, hj, rfl⟩ := h
  rcases Nat.lt_or_ge i j with hij | hij
  · exact .inr (byteOffset_mono text hij)
  · exact .inl (byteOffset_mono text hij)

end Boundary

/-! ### Counters -/

namespace CharCounter
variable {c : CharCounter}

/-- The counter stands between two characters of its text. -/
def Placed (c : CharCounter) : Prop :=
  ∃ before, c.text = before ++ c.rest ∧ c.chars = before.length ∧ c.bytes = byteLength before

theorem placed_start (text : List Char) : (start text).Placed := ⟨[], rfl, rfl, rfl⟩

@[simp] theorem start_chars (text : List Char) : (start text).chars = 0 := rfl

@[simp] theorem start_text (text : List Char) : (start text).text = text := rfl

@[simp] theorem walk_text (text : List Char) (bytes chars : Nat) (rest : List Char) (budget : Nat) :
    (walk text bytes chars rest budget).text = text := by
  fun_induction walk text bytes chars rest budget with
  | case1 => rfl
  | case2 _ _ _ _ _ _ ih => exact ih
  | case3 => rfl

theorem walk_chars (text : List Char) (bytes chars : Nat) (rest : List Char) (budget : Nat) :
    (walk text bytes chars rest budget).chars = chars + charsEndingBy rest budget := by
  fun_induction walk text bytes chars rest budget with
  | case1 => rfl
  | case2 bytes chars d ds budget h ih => rw [ih, charsEndingBy_cons_of_le ds h]; omega
  | case3 bytes chars d ds budget h => rw [charsEndingBy_cons_of_lt ds (by omega)]; rfl

theorem placed_walk (before rest : List Char) (budget : Nat) :
    (walk (before ++ rest) (byteLength before) before.length rest budget).Placed := by
  induction rest generalizing before budget with
  | nil => exact ⟨before, rfl, rfl, rfl⟩
  | cons d ds ih =>
    unfold walk
    split
    · have := ih (before ++ [d]) (budget - d.utf8Size)
      simpa using this
    · exact ⟨before, rfl, rfl, rfl⟩

@[simp] theorem moveTo_text (c : CharCounter) (b : Nat) : (c.moveTo b).text = c.text := by
  unfold moveTo; split <;> simp

theorem placed_moveTo (h : c.Placed) (b : Nat) : (c.moveTo b).Placed := by
  obtain ⟨before, ht, hc, hb⟩ := h
  unfold moveTo
  split
  · rw [ht, hc, hb]; exact placed_walk before c.rest _
  · exact placed_walk [] c.text b

/-- What a counter answers depends on its text alone. -/
theorem moveTo_chars (h : c.Placed) (b : Nat) : (c.moveTo b).chars = charsEndingBy c.text b := by
  obtain ⟨before, ht, hc, hb⟩ := h
  unfold moveTo
  split
  · rename_i hle
    rw [walk_chars, ht, charsEndingBy_append _ _ (by omega), hc, hb]
  · rw [walk_chars, Nat.zero_add]

end CharCounter

end Scriptlet.Text
