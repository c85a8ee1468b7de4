import Scriptlet.Highlight.Span

/-!
# Segments leave no gap

`Tiling start stop`: ranges follow each other from `start` to `stop`, none empty. The segments of a
token tile its clamped range whatever its children's ranges are (`tiling_ofToken`), because every
clamp is given bounds in order: a cursor never passes the end of its token. Filling up both ends and
joining neighbours keep the tiling (`tiling_cover`, `tiling_runs`).
-/

namespace Scriptlet

/-- The ranges follow each other without a gap from `start` to `stop`, and none is empty. -/
def Tiling (start stop : Nat) : List (Nat × Nat) → Prop
  | [] => start = stop
  | r :: rs => r.1 = start ∧ r.1 < r.2 ∧ Tiling r.2 stop rs

namespace Tiling
variable {a b c : Nat} {rs ss : List (Nat × Nat)}

theorem le (h : Tiling a b rs) : a ≤ b := by
  induction rs generalizing a with
  | nil => exact Nat.le_of_eq h
  | cons r rs ih =>
    obtain ⟨rfl, hlt, h⟩ := h
    have := ih h
    omega

theorem append (h : Tiling a b rs) (h' : Tiling b c ss) : Tiling a c (rs ++ ss) := by
  induction rs generalizing a with
  | nil => cases h; exact h'
  | cons r rs ih =>
    obtain ⟨hs, hlt, h⟩ := h
    exact ⟨hs, hlt, ih h⟩

theorem within (h : Tiling a b rs) : ∀ r ∈ rs, a ≤ r.1 ∧ r.1 < r.2 ∧ r.2 ≤ b := by
  induction rs generalizing a with
  | nil => simp
  | cons r rs ih =>
    obtain ⟨rfl, hlt, h⟩ := h
    have hle := h.le
    intro s hs
    rcases List.mem_cons.1 hs with rfl | hs
    · exact ⟨Nat.le_refl _, hlt, hle⟩
    · have := ih h s hs
      omega

theorem pairwise (h : Tiling a b rs) : rs.Pairwise fun r s => r.2 ≤ s.1 := by
  induction rs generalizing a with
  | nil => exact .nil
  | cons r rs ih =>
    obtain ⟨-, -, h⟩ := h
    exact .cons (fun s hs => (h.within s hs).1) (ih h)

theorem eq_nil (h : Tiling a a rs) : rs = [] := by
  cases rs with
  | nil => rfl
  | cons r rs =>
    have := (h.within r (List.mem_cons_self ..))
    omega

/-- The pieces that a tiling cuts from a list are the list again. -/
theorem flatMap_slice {α : Type} (h : Tiling a b rs) (xs : List α) :
    (rs.flatMap fun r => (xs.drop r.1).take (r.2 - r.1)) = (xs.drop a).take (b - a) := by
  induction rs generalizing a with
  | nil => cases h; simp
  | cons r rs ih =>
    obtain ⟨rfl, hlt, h⟩ := h
    have hle := h.le
    rw [List.flatMap_cons, ih h]
    have hdrop : xs.drop r.2 = (xs.drop r.1).drop (r.2 - r.1) := by
      rw [List.drop_drop, Nat.add_sub_cancel' (Nat.le_of_lt hlt)]
    have hsum : b - r.1 = (r.2 - r.1) + (b - r.2) := by omega
    rw [hdrop, hsum, List.take_add]

end Tiling

namespace Segment
variable {styles : StyleTable}

/-- The bytes from the first to the one behind the last. -/
def range (s : Segment) : Nat × Nat := (s.start, s.stop)

@[simp] theorem range_mk (start stop : Nat) (cls : Option String) :
    (Segment.mk start stop cls).range = (start, stop) := rfl

/-- Segments as a tiling. -/
abbrev Tiles (start stop : Nat) (segments : List Segment) : Prop := Tiling start stop (segments.map range)

/-! ### The walk over the tokens -/

theorem le_clamp (lo hi n : Nat) : lo ≤ clamp lo hi n := Nat.le_max_left ..

theorem clamp_le {lo hi : Nat} (h : lo ≤ hi) (n : Nat) : clamp lo hi n ≤ hi :=
  Nat.max_le.2 ⟨h, Nat.min_le_right ..⟩

theorem tiling_between {a b : Nat} (h : a ≤ b) (cls : Option String) : Tiles a b (between a b cls) := by
  unfold between
  split
  · exact ⟨rfl, ‹a < b›, rfl⟩
  · show a = b
    omega

mutual

/-- The segments of a token cover its clamped range. -/
theorem tiling_ofToken {start stop : Nat} (h : start ≤ stop) (cls : Option String) :
    ∀ t : Token, Tiles start stop (ofToken styles start stop cls t)
  | .node _ _ _ children => tiling_ofChildren h cls children

theorem tiling_ofChildren {cursor stop : Nat} (h : cursor ≤ stop) (cls : Option String) :
    ∀ ts : List Token, Tiles cursor stop (ofChildren styles cursor stop cls ts)
  | [] => tiling_between h cls
  | .node first last tags children :: rest => by
    have hs := le_clamp cursor stop first
    have hs' := clamp_le h first
    have hf := le_clamp (clamp cursor stop first) stop last
    have hf' := clamp_le hs' last
    unfold ofChildren
    simp only [Tiles, List.map_append]
    exact ((tiling_between hs cls).append (tiling_ofToken hf _ (.node first last tags children))).append
      (tiling_ofChildren hf' cls rest)

end

/-- The segments of a tree cover a part of the text, or there are none. -/
theorem tiling_ofTree (styles : StyleTable) (length : Nat) (t : TokenTree) :
    ∃ start stop, stop ≤ length ∧ Tiles start stop (ofTree styles length t) := by
  unfold ofTree
  split
  · exact ⟨0, 0, Nat.zero_le _, rfl⟩
  · rename_i first last tags children _
    exact ⟨min first length, clamp (min first length) length last, clamp_le (Nat.min_le_right ..) last,
      tiling_ofToken (le_clamp ..) _ _⟩

/-! ### From segments to runs -/

theorem Tiles.getLast_stop {start stop : Nat} {segments : List Segment} (h : Tiles start stop segments)
    (hne : segments ≠ []) : (segments.getLast hne).stop = stop := by
  induction segments generalizing start with
  | nil => exact absurd rfl hne
  | cons s ss ih =>
    obtain ⟨-, -, h⟩ := h
    cases ss with
    | nil => exact h
    | cons t ts => rw [List.getLast_cons (List.cons_ne_nil t ts)]; exact ih h _

/-- Filling up adds what lies in front of the segments and what lies behind them. -/
theorem Tiles.cover_eq {start stop length : Nat} {segments : List Segment} (h : Tiles start stop segments)
    (hne : segments ≠ []) :
    cover length segments = between 0 start none ++ segments ++ between stop length none := by
  cases segments with
  | nil => exact absurd rfl hne
  | cons s ss =>
    have hs : s.start = start := h.1
    simp only [cover, h.getLast_stop, hs]

theorem tiling_cover {start stop length : Nat} {segments : List Segment} (hl : stop ≤ length)
    (h : Tiles start stop segments) : Tiles 0 length (cover length segments) := by
  by_cases hne : segments = []
  · subst hne; exact tiling_between (Nat.zero_le _) none
  · rw [h.cover_eq hne]
    simp only [Tiles, List.map_append]
    exact ((tiling_between (Nat.zero_le _) none).append h).append (tiling_between hl none)

theorem tiling_consRun {a b : Nat} {s : Segment} {ss : List Segment} (h : Tiles a b (s :: ss)) :
    Tiles a b (consRun s ss) := by
  cases ss with
  | nil => exact h
  | cons t ts =>
    simp only [consRun]
    split
    · obtain ⟨hs, hlt, ht, hlt', h⟩ := h
      have hjoin : s.range.1 < t.range.2 := by omega
      exact ⟨hs, hjoin, h⟩
    · exact h

theorem tiling_runs {a b : Nat} {segments : List Segment} (h : Tiles a b segments) :
    Tiles a b (runs segments) := by
  induction segments generalizing a with
  | nil => exact h
  | cons s ss ih =>
    obtain ⟨hs, hlt, h⟩ := h
    exact tiling_consRun ⟨hs, hlt, ih h⟩

end Segment

end Scriptlet
