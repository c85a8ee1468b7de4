import Scriptlet.Scan

/-!
# Scanning a line step by step

With delimiters whose matches are never empty (`Delimiters.NeverEmpty`), the search of a line only ever
goes on further right: `Scan.line` is never stuck, and each of its steps is a search for an opener or
for a closer that fails or succeeds. `line_induct` is the induction over these steps; what holds of
scanning is shown by it, without another look at the definition.
-/

namespace Scriptlet

namespace Text.Cursor

theorem column_start (text : List Char) : (start text).column = 0 := rfl

theorem text_start (text : List Char) : (start text).text = text := rfl

theorem length_text (c : Cursor) : c.text.length = c.column + c.after.length := by
  simp [text, column]

theorem column_advance_of_le {n : Nat} {c : Cursor} (h : n ≤ c.after.length) :
    (c.advance n).column = c.column + n := by
  rw [advance_column, Nat.min_eq_left h]

end Text.Cursor

/-! ### Matches lie in the text -/

namespace Pattern

theorem best_le {accepted : Bool} {read : Nat} {best : Option Nat} (h : ∀ m, best = some m → m ≤ read) :
    ∀ m, (if accepted then some read else best) = some m → m ≤ read := by
  intro m hm
  split at hm
  · cases hm; exact Nat.le_refl _
  · exact h m hm

theorem reach_le {program : Array Instruction} {before : Option Char} {indices : List Nat} {read : Nat}
    {best : Option Nat} {text : List Char} {n : Nat} (hbest : ∀ m, best = some m → m ≤ read)
    (h : reach program before indices read best text = some n) : n ≤ read + text.length := by
  induction text generalizing before indices read best with
  | nil => exact best_le hbest n h
  | cons c cs ih =>
    simp only [reach] at h
    split at h
    · have := best_le hbest n h
      omega
    · have := ih (fun m hm => Nat.le_succ_of_le (best_le hbest m hm)) h
      simp only [List.length_cons]; omega

theorem findFrom_le {program : Array Instruction} {before : List Char} {skipped : Nat} {text : List Char}
    {k n : Nat} (h : findFrom program before skipped text = some (k, n)) : k + n ≤ skipped + text.length := by
  have hmatch : ∀ {before text n}, matchLength? program ⟨before, text⟩ = some n → n ≤ text.length := by
    intro before text n h
    simpa using reach_le (by simp) h
  induction text generalizing before skipped with
  | nil =>
    obtain ⟨m, hm, heq⟩ := Option.map_eq_some_iff.1 h
    cases heq
    have := hmatch hm
    omega
  | cons c cs ih =>
    simp only [findFrom] at h
    split at h
    · rename_i m hm
      cases h
      have := hmatch hm
      omega
    · have := ih h
      simp only [List.length_cons]; omega

/-- A match ends in the text behind the cursor. -/
theorem find?_le {p : Pattern} {c : Text.Cursor} {k n : Nat} (h : p.find? c = some (k, n)) :
    k + n ≤ c.after.length := by
  simpa using findFrom_le h

end Pattern

/-! ### Steps -/

/-- No match of either delimiter is empty, wherever it is searched for. -/
def Delimiters.NeverEmpty (d : Delimiters) : Prop :=
  ∀ c k n, d.opener.find? c = some (k, n) ∨ d.closer.find? c = some (k, n) → 0 < n

namespace Scan
variable {d : Delimiters} {base : Nat} {c : Text.Cursor}

/-- After a match that is not empty the search goes on further right. -/
theorem goes_on {k n : Nat} (hn : 0 < n) (hle : k + n ≤ c.after.length) : ¬(k + n = 0 ∨ c.after = []) := by
  rintro (h | h)
  · omega
  · rw [h, List.length_nil] at hle; omega

theorem line_none (hd : d.NeverEmpty) : line d base c false none =
    match d.opener.find? c with
    | none => ⟨[], none, false⟩
    | some (k, n) => line d base (c.advance (k + n)) false
        (some ⟨base + (c.column + k), if c.column + k = 0 then .block else .inline⟩) := by
  rw [line]
  cases hfind : d.opener.find? c with
  | none => rfl
  | some m =>
    obtain ⟨k, n⟩ := m
    simp only [dif_neg (goes_on (hd c k n (.inl hfind)) (Pattern.find?_le hfind))]

theorem line_some (hd : d.NeverEmpty) (p : Pending) : line d base c false (some p) =
    match d.closer.find? c with
    | none => ⟨[], some p, false⟩
    | some (k, n) => (line d base (c.advance (k + n)) false none).cons
        ⟨p.start, base + (c.column + k + n), p.kind⟩ := by
  rw [line]
  cases hfind : d.closer.find? c with
  | none => rfl
  | some m =>
    obtain ⟨k, n⟩ := m
    simp only [dif_neg (goes_on (hd c k n (.inr hfind)) (Pattern.find?_le hfind))]

/-- Induction over the steps of searching a line. -/
theorem line_induct (hd : d.NeverEmpty) (base : Nat) {P : Text.Cursor → Option Pending → Found → Prop}
    (openMiss : ∀ c, d.opener.find? c = none → P c none ⟨[], none, false⟩)
    (openHit : ∀ c k n f, d.opener.find? c = some (k, n) → 0 < n → k + n ≤ c.after.length →
      P (c.advance (k + n)) (some ⟨base + (c.column + k), if c.column + k = 0 then .block else .inline⟩) f →
      P c none f)
    (closeMiss : ∀ c p, d.closer.find? c = none → P c (some p) ⟨[], some p, false⟩)
    (closeHit : ∀ c p k n f, d.closer.find? c = some (k, n) → 0 < n → k + n ≤ c.after.length →
      P (c.advance (k + n)) none f → P c (some p) (f.cons ⟨p.start, base + (c.column + k + n), p.kind⟩))
    (c : Text.Cursor) (pending : Option Pending) : P c pending (line d base c false pending) := by
  have hind : ∀ m c, c.after.length = m → ∀ pending, P c pending (line d base c false pending) := by
    intro m
    induction m using Nat.strongRecOn with
    | _ m ih =>
      intro c hm pending
      have hshorter : ∀ k n, 0 < n → k + n ≤ c.after.length → ∀ pending,
          P (c.advance (k + n)) pending (line d base (c.advance (k + n)) false pending) := by
        intro k n hn hle pending
        refine ih _ ?_ _ rfl pending
        rw [Text.Cursor.advance_after, List.length_drop]; omega
      cases pending with
      | none =>
        rw [line_none hd]
        cases hfind : d.opener.find? c with
        | none => exact openMiss c hfind
        | some r =>
          have hn := hd c r.1 r.2 (.inl hfind)
          have hle := Pattern.find?_le hfind
          exact openHit c r.1 r.2 _ hfind hn hle (hshorter r.1 r.2 hn hle _)
      | some p =>
        rw [line_some hd]
        cases hfind : d.closer.find? c with
        | none => exact closeMiss c p hfind
        | some r =>
          have hn := hd c r.1 r.2 (.inr hfind)
          have hle := Pattern.find?_le hfind
          exact closeHit c p r.1 r.2 _ hfind hn hle (hshorter r.1 r.2 hn hle _)
  exact hind _ c rfl pending

theorem line_endless (hd : d.NeverEmpty) (base : Nat) (c : Text.Cursor) (pending : Option Pending) :
    (line d base c false pending).endless = false := by
  refine line_induct hd base (P := fun _ _ f => f.endless = false) ?_ ?_ ?_ ?_ c pending
  · intros; rfl
  · intro c k n f _ _ _ ih; exact ih
  · intros; rfl
  · intro c p k n f _ _ _ ih; exact ih

/-- The search of a text goes through its lines to the end. -/
theorem lines_cons (hd : d.NeverEmpty) (base : Nat) (pending : Option Pending) (l : List Char)
    (ls : List (List Char)) : lines d base pending (l :: ls) =
      let found := line d base (.start l) false pending
      let rest := lines d (base + l.length) found.pending ls
      { rest with regions := found.regions ++ rest.regions } := by
  rw [lines]
  simp only [line_endless hd, Bool.false_eq_true, ↓reduceIte]

end Scan

end Scriptlet
