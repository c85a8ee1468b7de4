import Scriptlet.Text.CharRange

/-! # Blank characters

White space in any script. -/

namespace Scriptlet.Text

/-- Ranges of the white space characters, in code point order. -/
def blankRanges : List CodeRange := [
  (0x9, 0xD), (0x20, 0x20), (0x85, 0x85), (0xA0, 0xA0), (0x1680, 0x1680), (0x2000, 0x200A),
  (0x2028, 0x2029), (0x202F, 0x202F), (0x205F, 0x205F), (0x3000, 0x3000)
]

/-- White space of some script. -/
def isBlank (c : Char) : Bool :=
  inRanges blankRanges c

end Scriptlet.Text
