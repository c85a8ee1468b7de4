import Scriptlet.FileError
import Scriptlet.Text.Line

/-! # Documents

A document is a text that is read by lines and by character offsets, and edited by splicing. Every
operation that takes an offset says what is wrong with one out of bounds and leaves the document as
it is. -/

namespace Scriptlet

/-- A text under edit. -/
structure Document where
  chars : List Char
  deriving DecidableEq, Repr

/-- Why a document refused an operation. -/
inductive DocumentError where
  | lineOutOfBounds (line : Nat)
  | invalidOffset (offset : Nat)
  | invalidRange (start stop : Nat)
  | file (e : FileError)
  deriving DecidableEq, Repr

/-- The error in words. -/
def DocumentError.message : DocumentError → String
  | lineOutOfBounds line => s!"Line {line} is out of bounds"
  | invalidOffset offset => s!"Invalid character index: {offset}"
  | invalidRange start stop => s!"Invalid range: {start}..{stop}"
  | file e => "IO error: " ++ e.message

namespace Document

/-- The document without text. -/
def empty : Document := ⟨[]⟩

/-- The document with the text. -/
def ofString (s : String) : Document := ⟨s.toList⟩

/-- The text as a string. -/
def toString (d : Document) : String := String.ofList d.chars

/-! ### Measures -/

/-- The number of characters. -/
def length (d : Document) : Nat := d.chars.length

/-- No text at all. -/
def isEmpty (d : Document) : Bool := d.length == 0

/-- The lines in order, breaks included. -/
def lines (d : Document) : List (List Char) := Text.splitLines d.chars

/-- The number of lines, at least one. -/
def lineCount (d : Document) : Nat := d.lines.length

/-- The offset at which each line starts. -/
def lineStarts (d : Document) : List Nat := Text.lineStartsFrom 0 d.lines

/-! ### Parts -/

/-- The line of the given number, counted from zero. -/
def line (d : Document) (i : Nat) : Except DocumentError (List Char) :=
  match d.lines[i]? with
  | some l => .ok l
  | none => .error (.lineOutOfBounds i)

/-- The text between two offsets. -/
def slice (d : Document) (start stop : Nat) : Except DocumentError (List Char) :=
  if start ≤ stop ∧ stop ≤ d.length then .ok ((d.chars.drop start).take (stop - start))
  else .error (.invalidRange start stop)

/-! ### Coordinates -/

/-- The number of the line that holds the offset. The end of the text belongs to the last line. -/
def lineAt (d : Document) (offset : Nat) : Except DocumentError Nat :=
  if offset ≤ d.length then .ok ((d.lineStarts.filter (· ≤ offset)).length - 1)
  else .error (.invalidOffset offset)

/-- The offset at which the line starts. -/
def lineStart (d : Document) (i : Nat) : Except DocumentError Nat :=
  match d.lineStarts[i]? with
  | some start => .ok start
  | none => .error (.lineOutOfBounds i)

/-! ### Edits -/

/-- Puts text in front of the character at the offset. -/
def insert (d : Document) (offset : Nat) (text : List Char) : Except DocumentError Document :=
  if offset ≤ d.length then .ok ⟨d.chars.take offset ++ text ++ d.chars.drop offset⟩
  else .error (.invalidOffset offset)

/-- Takes out the text between two offsets: the text, and the document without it. -/
def delete (d : Document) (start stop : Nat) : Except DocumentError (List Char × Document) :=
  (d.slice start stop).map fun text => (text, ⟨d.chars.take start ++ d.chars.drop stop⟩)

end Document

end Scriptlet
