import Scriptlet.Proofs.ScanSteps

/-!
# The regions of a scan are in order

`Region.Ordered lo hi`: regions between two offsets, none empty, each beginning where the one before has
ended or later. Scanning keeps it from step to step with the offset reached so far as the upper bound,
or the start of the opener that is still to be closed (`front`); so the regions of a document are
ordered within it (`ordered_scan`).
-/

namespace Scriptlet

namespace Region

/-- The regions lie between the offsets, none is empty, and each ends before the next begins. -/
def Ordered (lo hi : Nat) : List Region → Prop
  | [] => lo ≤ hi
  | r :: rs => lo ≤ r.start ∧ r.start < r.stop ∧ Ordered r.stop hi rs

namespace Ordered
variable {a b c : Nat} {rs ss : List Region}

theorem le (h : Ordered a b rs) : a ≤ b := by
  induction rs generalizing a with
  | nil => exact h
  | cons r rs ih =>
    obtain ⟨h₁, h₂, h⟩ := h
    have := ih h
    omega

theorem mono (hle : c ≤ a) (h : Ordered a b rs) : Ordered c b rs := by
  cases rs with
  | nil => exact Nat.le_trans hle h
  | cons r rs => exact ⟨Nat.le_trans hle h.1, h.2⟩

theorem append (h : Ordered a b rs) (h' : Ordered b c ss) : Ordered a c (rs ++ ss) := by
  induction rs generalizing a with
  | nil => exact h'.mono h
  | cons r rs ih => exact ⟨h.1, h.2.1, ih h.2.2⟩

theorem within (h : Ordered a b rs) : ∀ r ∈ rs, a ≤ r.start ∧ r.start < r.stop ∧ r.stop ≤ b := by
  induction rs generalizing a with
  | nil => simp
  | cons r rs ih =>
    obtain ⟨h₁, h₂, h⟩ := h
    have hle := h.le
    intro s hs
    rcases List.mem_cons.1 hs with rfl | hs
    · exact ⟨h₁, h₂, hle⟩
    · have := ih h s hs
      omega

theorem pairwise (h : Ordered a b rs) : rs.Pairwise fun r s => r.stop ≤ s.start := by
  induction rs generalizing a with
  | nil => exact .nil
  | cons r rs ih =>
    obtain ⟨-, -, h⟩ := h
    exact .cons (fun s hs => (h.within s hs).1) (ih h)

end Ordered

end Region

namespace Scan
open Region (Ordered)
variable {d : Delimiters} {base : Nat}

/-- How far the regions reach: up to the opener that is to be closed, or to the offset given. -/
def front : Option Pending → Nat → Nat
  | none, offset => offset
  | some p, _ => p.start

theorem ordered_line (hd : d.NeverEmpty) (base : Nat) (c : Text.Cursor) (pending : Option Pending)
    (hp : ∀ p, pending = some p → p.start < base + c.column) :
    Ordered (front pending (base + c.column))
        (front (line d base c false pending).pending (base + c.text.length))
        (line d base c false pending).regions ∧
      ∀ p, (line d base c false pending).pending = some p → p.start < base + c.text.length := by
  revert hp
  refine line_induct hd base (P := fun c pending f => (∀ p, pending = some p → p.start < base + c.column) →
    Ordered (front pending (base + c.column)) (front f.pending (base + c.text.length)) f.regions ∧
      ∀ p, f.pending = some p → p.start < base + c.text.length) ?_ ?_ ?_ ?_ c pending
  · intro c _ _
    refine ⟨?_, by simp⟩
    show base + c.column ≤ base + c.text.length
    rw [Text.Cursor.length_text]; omega
  · intro c k n f _ hn hle ih _
    have hcol := Text.Cursor.column_advance_of_le hle
    rw [hcol, Text.Cursor.advance_text] at ih
    obtain ⟨hord, hpend⟩ := ih (by rintro p ⟨⟩; simp only; omega)
    exact ⟨hord.mono (show base + c.column ≤ base + (c.column + k) by omega), hpend⟩
  · intro c p _ hp
    have hlt := hp p rfl
    refine ⟨Nat.le_refl _, ?_⟩
    rintro _ ⟨⟩
    rw [Text.Cursor.length_text]; omega
  · intro c p k n f _ hn hle ih hp
    have hlt := hp p rfl
    have hcol := Text.Cursor.column_advance_of_le hle
    rw [hcol, Text.Cursor.advance_text] at ih
    obtain ⟨hord, hpend⟩ := ih (by simp)
    refine ⟨⟨Nat.le_refl _, show p.start < base + (c.column + k + n) by omega, ?_⟩, hpend⟩
    exact hord.mono (show base + (c.column + k + n) ≤ base + (c.column + (k + n)) by omega)

theorem ordered_lines (hd : d.NeverEmpty) (base : Nat) (ls : List (List Char)) (pending : Option Pending)
    (hp : ∀ p, pending = some p → p.start < base) :
    Ordered (front pending base) (base + ls.flatten.length) (lines d base pending ls).regions ∧
      (lines d base pending ls).endless = false := by
  induction ls generalizing base pending with
  | nil =>
    refine ⟨?_, rfl⟩
    show front pending base ≤ base + 0
    cases pending with
    | none => exact Nat.le_refl _
    | some p => exact Nat.le_of_lt (hp p rfl)
  | cons l ls ih =>
    rw [lines_cons hd]
    obtain ⟨hord, hpend⟩ := ordered_line hd base (.start l) pending hp
    simp only [Text.Cursor.text_start, Text.Cursor.column_start, Nat.add_zero] at hord hpend
    obtain ⟨hrest, hend⟩ := ih _ _ hpend
    refine ⟨hord.append ?_, hend⟩
    rw [List.flatten_cons, List.length_append, ← Nat.add_assoc]
    exact hrest

end Scan

/-- The regions of a document are in order and inside it, and the scan is not given up. -/
theorem ordered_scan {d : Delimiters} (hd : d.NeverEmpty) (doc : Document) :
    Region.Ordered 0 doc.length (scan d doc).regions ∧ (scan d doc).endless = false := by
  have h := Scan.ordered_lines hd 0 doc.lines none (by simp)
  simpa [scan, Document.lines, Document.length, Scan.front] using h

end Scriptlet
