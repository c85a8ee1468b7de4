import Scriptlet.Text.Blank
import Scriptlet.Text.CaseFold
import Scriptlet.Text.DecimalDigit
import Scriptlet.Text.WordChar

/-! # Character sets

What a pattern asks of a single character: a set, kept as ranges of code points in order and with a
gap between any two, so that equal sets are equal terms. -/

namespace Scriptlet

open Text (CodeRange nextCode prevCode lastCode)

/-- A set of characters. -/
structure CharSet where
  /-- The ranges, lowest first, none meeting or touching the next. -/
  ranges : List CodeRange
  deriving DecidableEq, Repr

namespace CharSet

/-- The code point belongs to the set. -/
def memCode (s : CharSet) (n : Nat) : Bool :=
  Text.codeInRanges s.ranges n

/-- The character belongs to the set. -/
def mem (s : CharSet) (c : Char) : Bool :=
  s.memCode c.toNat

/-- No character. -/
def none : CharSet := ⟨[]⟩

/-- Every character. -/
def all : CharSet := ⟨[(0, lastCode)]⟩

/-- The characters between two, both included. -/
def range (first last : Char) : CharSet := ⟨[(first.toNat, last.toNat)]⟩

/-- The set of one character. -/
def one (c : Char) : CharSet :=
  range c c

/-- The characters of words. -/
def word : CharSet := ⟨Text.wordRanges⟩

/-- The decimal digits. -/
def digit : CharSet := ⟨Text.decimalDigitRanges⟩

/-- White space. -/
def blank : CharSet := ⟨Text.blankRanges⟩

@[simp] theorem mem_none (c : Char) : none.mem c = false := rfl

@[simp] theorem mem_range (first last c : Char) :
    (range first last).mem c = (decide (first ≤ c) && decide (c ≤ last)) := by
  simp only [range, mem, memCode, Text.codeInRanges, List.any_cons, List.any_nil, Bool.or_false]
  rfl

@[simp] theorem mem_one (c d : Char) : (one c).mem d = (c == d) := by
  rw [Bool.eq_iff_iff]
  simp only [one, mem_range, Bool.and_eq_true, decide_eq_true_eq, beq_iff_eq]
  exact ⟨fun h => Char.le_antisymm h.1 h.2, fun h => h ▸ ⟨Char.le_refl _, Char.le_refl _⟩⟩

/-! ### Union, intersection, difference -/

/-- The ranges with one more, which takes in those it meets or touches. -/
def insertRange (r : CodeRange) : List CodeRange → List CodeRange
  | [] => [r]
  | s :: rest =>
    if r.2 + 1 < s.1 then r :: s :: rest
    else if s.2 + 1 < r.1 then s :: insertRange r rest
    else insertRange (min r.1 s.1, max r.2 s.2) rest

/-- The characters of either set. -/
def union (a b : CharSet) : CharSet :=
  ⟨b.ranges.foldl (fun rs r => insertRange r rs) a.ranges⟩

/-- The set with one more code point. -/
def insertCode (s : CharSet) (n : Nat) : CharSet :=
  ⟨insertRange (n, n) s.ranges⟩

/-- The set of the listed characters. -/
def ofList (cs : List Char) : CharSet :=
  cs.foldl (fun s c => s.insertCode c.toNat) none

/-- The union of ranges of characters. -/
def ofRanges (rs : List (Char × Char)) : CharSet :=
  rs.foldl (fun s r => s.union (range r.1 r.2)) none

/-- The characters of both sets. -/
def inter (a b : CharSet) : CharSet :=
  ⟨a.ranges.flatMap fun r => b.ranges.filterMap (Text.meet? r)⟩

theorem mem_inter (a b : CharSet) (c : Char) : (a.inter b).mem c = (a.mem c && b.mem c) := by
  rw [Bool.eq_iff_iff]
  simp only [mem, memCode, inter, Text.codeInRanges, List.any_eq_true, List.mem_flatMap,
    List.mem_filterMap, Text.meet?, Bool.and_eq_true, decide_eq_true_eq]
  constructor
  · rintro ⟨t, ⟨r, hr, s, hs, h⟩, ht⟩
    split at h
    · cases h
      exact ⟨⟨r, hr, by omega⟩, ⟨s, hs, by omega⟩⟩
    · cases h
  · rintro ⟨⟨r, hr, h⟩, ⟨s, hs, h'⟩⟩
    exact ⟨(max r.1 s.1, min r.2 s.2), ⟨r, hr, s, hs, if_pos (by omega)⟩, by omega⟩

/-- What is left of a range without another. -/
def cut (r s : CodeRange) : List CodeRange :=
  if s.2 < r.1 || r.2 < s.1 then [r]
  else
    (if r.1 < s.1 then [(r.1, prevCode s.1)] else []) ++
      (if s.2 < r.2 then [(nextCode s.2, r.2)] else [])

/-- The characters of the first set that are not in the second. -/
def diff (a b : CharSet) : CharSet :=
  ⟨a.ranges.flatMap fun r => b.ranges.foldl (fun rs s => rs.flatMap (cut · s)) [r]⟩

/-- The characters of exactly one of the sets. -/
def symmDiff (a b : CharSet) : CharSet :=
  (a.union b).diff (a.inter b)

/-! ### Complement -/

/-- What lies between two ranges in order. Where that is nothing, as the one ends at U+D7FF and the
other begins at U+E000, it is these two. -/
def between (r s : CodeRange) : CodeRange :=
  (min (nextCode r.2) (prevCode s.1), max (nextCode r.2) (prevCode s.1))

/-- What lies after the range and between those that follow, up to the last code point. -/
def gapsAfter (r : CodeRange) : List CodeRange → List CodeRange
  | [] => if r.2 < lastCode then [(nextCode r.2, lastCode)] else []
  | s :: rest => between r s :: gapsAfter s rest

/-- The characters outside the set. -/
def compl (s : CharSet) : CharSet :=
  match s.ranges with
  | [] => all
  | r :: rest => ⟨(if 0 < r.1 then [(0, prevCode r.1)] else []) ++ gapsAfter r rest⟩

/-! ### Case -/

/-- The characters with a member in their case class. -/
def anyCase (s : CharSet) : CharSet :=
  let representatives := Text.foldPairs.foldl
    (fun t p => if s.memCode p.1 || s.memCode p.2 then t.insertCode p.2 else t) none
  Text.foldPairs.foldl
    (fun t p => if representatives.memCode p.2 then (t.insertCode p.1).insertCode p.2 else t) s

/-- The members, and ASCII letters that are members in their other case. -/
def asciiCase (s : CharSet) : CharSet :=
  let upper := (s.inter (range 'A' 'Z')).ranges.map fun r => (r.1 + 32, r.2 + 32)
  let lower := (s.inter (range 'a' 'z')).ranges.map fun r => (r.1 - 32, r.2 - 32)
  (s.union ⟨upper⟩).union ⟨lower⟩

/-! ### Shape -/

/-- No member beyond U+007F. -/
def isAscii (s : CharSet) : Bool :=
  s.ranges.all fun r => r.2 < 0x80

/-- The only member, if there is just one. -/
def only? (s : CharSet) : Option Char :=
  match s.ranges with
  | [r] => if r.1 = r.2 then some (Char.ofNat r.1) else Option.none
  | _ => Option.none

end CharSet

end Scriptlet
