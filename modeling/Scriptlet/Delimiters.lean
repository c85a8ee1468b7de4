import Scriptlet.Pattern.Matching
import Scriptlet.Pattern.Reader
import Scriptlet.SyntaxError

/-! # Delimiters

A fragment stands between an opener and a closer, each given by a pattern. Inside a line they are
searched for with the text before in sight; at the two ends of a fragment, in the fragment alone. -/

namespace Scriptlet

/-- The patterns for both ends of a fragment. -/
structure Delimiters where
  opener : Pattern
  closer : Pattern
  deriving DecidableEq, Repr

namespace Delimiters

/-- The opener used where no other is given: an angle bracket, a percent sign and perhaps a star. -/
def standardOpen : String := "<%\\*?"

/-- The closer used where no other is given: a percent sign and an angle bracket. -/
def standardClose : String := "%>"

/-- The delimiters used where no others are given. -/
def standard : Delimiters where
  opener := .seq (.literal ['<', '%']) (.repeated true 0 (some 1) (.literal ['*']))
  closer := .literal ['%', '>']

/-- The pattern a text stands for, unless it matches the empty text: such a delimiter would be found
everywhere. -/
def readPattern (text : String) : Except SyntaxError Pattern :=
  match Pattern.ofText? text with
  | none => .error (.invalidPattern text none)
  | some p =>
    if p.matchesEmpty then .error (.invalidPattern text (some "pattern matches the empty string"))
    else .ok p

/-- The delimiters that two texts stand for. -/
def ofTexts (opener closer : String) : Except SyntaxError Delimiters :=
  (readPattern opener).bind fun o => (readPattern closer).map fun c => ⟨o, c⟩

/-! ### Searching a line -/

/-- A search was to start more than a byte behind the end of the line. -/
inductive SearchError where
  | beyondEnd (start : Nat)
  deriving DecidableEq, Repr

/-- The first match in the line at or after a byte offset, as a range of bytes. The offset may be one
byte behind the end, where nothing matches. -/
def findInLine (p : Pattern) (line : List Char) (start : Nat) :
    Except SearchError (Option (Nat × Nat)) :=
  if start ≤ Text.byteLength line then
    let cursor := (Text.Cursor.start line).advance (Text.charsStartingBefore line start)
    .ok ((p.find? cursor).map fun (skip, size) =>
      let first := cursor.column + skip
      (Text.byteLength (line.take first), Text.byteLength (line.take (first + size))))
  else if start = Text.byteLength line + 1 then .ok none
  else .error (.beyondEnd start)

/-- The first opener in the line at or after a byte offset. -/
def findOpen (d : Delimiters) (line : List Char) (start : Nat) :=
  findInLine d.opener line start

/-- The first closer in the line at or after a byte offset. -/
def findClose (d : Delimiters) (line : List Char) (start : Nat) :=
  findInLine d.closer line start

/-! ### The ends of a fragment -/

/-- The length in characters of the opener the text starts with. -/
def openerLength? (d : Delimiters) (text : List Char) : Option Nat :=
  match d.opener.find? (.start text) with
  | some (0, size) => some size
  | _ => none

/-- The offset in characters of the closer that ends the text, if the matches in it, taken one after
the other, end with one there. -/
def closerStart? (d : Delimiters) (text : List Char) : Option Nat :=
  ((d.closer.findAll text).filter fun m => m.2 == text.length).getLast?.map (·.1)

/-- The length in bytes of the opener the text starts with. -/
def leadingOpen (d : Delimiters) (text : List Char) : Option Nat :=
  (d.openerLength? text).map fun n => Text.byteLength (text.take n)

/-- The byte offset of the closer that ends the text, searched for from byte `start` on as if the
text started there. -/
def trailingClose (d : Delimiters) (text : List Char) (start : Nat) : Option Nat :=
  match Text.splitAtByte? text start with
  | none => none
  | some (_, rest) =>
    (d.closerStart? rest).map fun n => start + Text.byteLength (rest.take n)

/-- A fragment taken apart. -/
structure Parts where
  opener : List Char
  body : List Char
  closer : List Char
  deriving DecidableEq, Repr

/-- Takes the opener off the front of a text and the closer off its end. Either is empty if there is
none. -/
def split (d : Delimiters) (text : List Char) : Parts :=
  let n := (d.openerLength? text).getD 0
  let rest := text.drop n
  let m := (d.closerStart? rest).getD rest.length
  ⟨text.take n, rest.take m, rest.drop m⟩

/-- Nothing is lost by taking a fragment apart. -/
theorem split_append (d : Delimiters) (text : List Char) :
    (d.split text).opener ++ (d.split text).body ++ (d.split text).closer = text := by
  simp only [split, List.append_assoc, List.take_append_drop]

end Delimiters

end Scriptlet
