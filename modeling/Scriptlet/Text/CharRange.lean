/-! # Character tables

A table lists closed ranges of code points. `inRanges` asks whether a character lies in one of them.
The code points from U+D800 to U+DFFF, which are no characters, are stepped over by `nextCode` and
`prevCode`. -/

namespace Scriptlet.Text

/-- A closed range of code points, first and last. -/
abbrev CodeRange := Nat × Nat

/-- The code point lies in one of the ranges. -/
def codeInRanges (ranges : List CodeRange) (n : Nat) : Bool :=
  ranges.any fun r => r.1 ≤ n && n ≤ r.2

/-- The character lies in one of the ranges. -/
def inRanges (ranges : List CodeRange) (c : Char) : Bool :=
  codeInRanges ranges c.toNat

/-- What two ranges have in common. -/
def meet? (r s : CodeRange) : Option CodeRange :=
  let common := (max r.1 s.1, min r.2 s.2)
  if common.1 ≤ common.2 then some common else none

/-- The largest code point. -/
def lastCode : Nat := 0x10FFFF

/-- The code point of the next character. -/
def nextCode (n : Nat) : Nat :=
  if n = 0xD7FF then 0xE000 else n + 1

/-- The code point of the character before. -/
def prevCode (n : Nat) : Nat :=
  if n = 0xE000 then 0xD7FF else n - 1

end Scriptlet.Text
