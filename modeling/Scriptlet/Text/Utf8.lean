/-! # Byte offsets

Tokens are placed by UTF-8 bytes, decorations by characters. The functions here go from one count to
the other over a list of characters. -/

namespace Scriptlet.Text

/-- The number of bytes the text takes. -/
def byteLength : List Char → Nat
  | [] => 0
  | c :: cs => c.utf8Size + byteLength cs

/-- The number of characters that end at or before the byte offset. -/
def charsEndingBy : List Char → Nat → Nat
  | [], _ => 0
  | c :: cs, b => if c.utf8Size ≤ b then 1 + charsEndingBy cs (b - c.utf8Size) else 0

/-- The number of characters that start before the byte offset. -/
def charsStartingBefore : List Char → Nat → Nat
  | [], _ => 0
  | _ :: _, 0 => 0
  | c :: cs, b + 1 => 1 + charsStartingBefore cs (b + 1 - c.utf8Size)

/-- The text before and after a byte offset, if the offset is between two characters or at an end. -/
def splitAtByte? : List Char → Nat → Option (List Char × List Char)
  | cs, 0 => some ([], cs)
  | [], _ + 1 => none
  | c :: cs, b + 1 =>
    if c.utf8Size ≤ b + 1 then
      (splitAtByte? cs (b + 1 - c.utf8Size)).map fun (before, after) => (c :: before, after)
    else none

end Scriptlet.Text
