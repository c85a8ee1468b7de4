import Scriptlet.Text.Utf8

/-! # Counting characters up to byte offsets

A counter answers how many characters of its text end at or before a byte offset. It remembers where
it stood, so that offsets asked for in increasing order cost one pass over the text. -/

namespace Scriptlet.Text

/-- A text and a place in it between two characters. -/
structure CharCounter where
  text : List Char
  /-- The bytes before the place. -/
  bytes : Nat
  /-- The characters before the place. -/
  chars : Nat
  /-- The text behind the place. -/
  rest : List Char
  deriving DecidableEq, Repr

namespace CharCounter

/-- The counter in front of a text. -/
def start (text : List Char) : CharCounter :=
  ⟨text, 0, 0, text⟩

/-- Moves over the characters that end within `budget` further bytes. -/
def walk (text : List Char) (bytes chars : Nat) : List Char → Nat → CharCounter
  | [], _ => ⟨text, bytes, chars, []⟩
  | c :: cs, budget =>
    if c.utf8Size ≤ budget then walk text (bytes + c.utf8Size) (chars + 1) cs (budget - c.utf8Size)
    else ⟨text, bytes, chars, c :: cs⟩

/-- Moves to the last place that is not beyond the byte offset: onwards from where it stands, or from
the front if that is further right. -/
def moveTo (c : CharCounter) (offset : Nat) : CharCounter :=
  if c.bytes ≤ offset then walk c.text c.bytes c.chars c.rest (offset - c.bytes)
  else walk c.text 0 0 c.text offset

end CharCounter

end Scriptlet.Text
