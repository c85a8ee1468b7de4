import Scriptlet.Delimiters
import Scriptlet.Document
import Scriptlet.Region

/-! # Scanning

An opener starts a region, and the next closer after it ends the region; openers in between do not
count, and an opener that is never closed gives nothing. Neither end can span a line break, as each
is searched for in a line by itself, but a region can. -/

namespace Scriptlet

namespace Scan

/-- An opener that waits for its closer: where it starts and the kind of its region. -/
structure Pending where
  start : Nat
  kind : RegionKind
  deriving DecidableEq, Repr

/-- What has been found. -/
structure Found where
  regions : List Region
  /-- The opener that is still to be closed. -/
  pending : Option Pending
  /-- Both delimiters match the empty text at one place, so that regions there have no end. The
  search is given up at that place. -/
  endless : Bool
  deriving DecidableEq, Repr

/-- The same with a region in front. -/
def Found.cons (r : Region) (f : Found) : Found :=
  { f with regions := r :: f.regions }

/-- What is left to do at one place: close a pending opener, or look for the next one. -/
def phase : Option Pending → Bool → Nat
  | none, false => 2
  | some _, _ => 1
  | none, true => 0

theorem advance_shorter {n : Nat} {c : Text.Cursor} (h : ¬(n = 0 ∨ c.after = [])) :
    (c.advance n).after.length < c.after.length := by
  rw [not_or] at h
  have : 0 < c.after.length := List.length_pos_iff.2 h.2
  rw [Text.Cursor.advance_after, List.length_drop]
  omega

/-- Looks for openers and closers in turn, from the cursor to the end of a line that starts at offset
`base`. `stuck` says that an empty closer has been found at the cursor: an empty opener there would
lead to the same closer again. -/
def line (d : Delimiters) (base : Nat) (c : Text.Cursor) (stuck : Bool) (pending : Option Pending) :
    Found :=
  match pending with
  | none =>
    match d.opener.find? c with
    | none => ⟨[], none, false⟩
    | some (skip, size) =>
      let first := c.column + skip
      let opened : Pending := ⟨base + first, if first = 0 then .block else .inline⟩
      if _h : skip + size = 0 ∨ c.after = [] then
        if stuck then ⟨[], none, true⟩ else line d base c false (some opened)
      else line d base (c.advance (skip + size)) false (some opened)
  | some ⟨start, kind⟩ =>
    match d.closer.find? c with
    | none => ⟨[], some ⟨start, kind⟩, false⟩
    | some (skip, size) =>
      let closed : Region := ⟨start, base + (c.column + skip + size), kind⟩
      if _h : skip + size = 0 ∨ c.after = [] then (line d base c true none).cons closed
      else (line d base (c.advance (skip + size)) false none).cons closed
termination_by (c.after.length, phase pending stuck)
decreasing_by
  · exact Prod.Lex.right _ (by simp_all [phase])
  · exact Prod.Lex.left _ _ (advance_shorter _h)
  · exact Prod.Lex.right _ (by simp [phase])
  · exact Prod.Lex.left _ _ (advance_shorter _h)

/-- Goes through the lines in order, the first of which starts at offset `base`. -/
def lines (d : Delimiters) (base : Nat) (pending : Option Pending) : List (List Char) → Found
  | [] => ⟨[], pending, false⟩
  | l :: ls =>
    let found := line d base (.start l) false pending
    if found.endless then found
    else
      let rest := lines d (base + l.length) found.pending ls
      { rest with regions := found.regions ++ rest.regions }

end Scan

/-- The regions of the document in order, and the opener left without a closer. -/
def scan (d : Delimiters) (doc : Document) : Scan.Found :=
  Scan.lines d 0 none doc.lines

end Scriptlet
