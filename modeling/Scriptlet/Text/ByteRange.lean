import Scriptlet.Text.CharRange

/-! # Ranges of characters as ranges of bytes

The UTF-8 forms of the characters in a range are the byte sequences that pick one byte from each of a
few ranges. `byteSequences` lists these: pieces of the range whose characters share all bytes but the
last ones, which run through everything that can stand there. -/

namespace Scriptlet.Text

/-- A closed range of bytes, first and last. -/
abbrev ByteRange := UInt8 × UInt8

/-- The UTF-8 bytes of the character at the code point. -/
def utf8Bytes (n : Nat) : List UInt8 :=
  String.utf8EncodeChar (Char.ofNat n)

/-- Cuts a range at multiples of `unit`, what lies between the first and the last of them at multiples
of 64 times that, and so on. -/
def cutAligned : Nat → Nat → CodeRange → List CodeRange
  | 0, _, r => [r]
  | levels + 1, unit, (first, last) =>
    if first / unit = last / unit then [(first, last)]
    else
      let start := (first + unit - 1) / unit * unit
      let head := if start = first then [] else [(first, start - 1)]
      if start / unit = last / unit then head ++ [(start, last)]
      else
        let stop := (last + 1) / unit * unit
        let tail := if stop = last + 1 then [] else [(stop, last)]
        head ++ cutAligned levels (64 * unit) (start, stop - 1) ++ tail

/-- The code points of characters with two bytes, three bytes on either side of the surrogates, and
four. -/
def longForms : List CodeRange :=
  [(0x80, 0x7FF), (0x800, 0xD7FF), (0xE000, 0xFFFF), (0x10000, lastCode)]

/-- The byte sequences of the characters in a range, in order. -/
def byteSequences (r : CodeRange) : List (List ByteRange) :=
  let pieces := (longForms.filterMap (meet? r)).flatMap (cutAligned 3 64)
  ((meet? r (0, 0x7F)).toList ++ pieces).map fun p => (utf8Bytes p.1).zip (utf8Bytes p.2)

end Scriptlet.Text
