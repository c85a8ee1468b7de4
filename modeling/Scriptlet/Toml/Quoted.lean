/-! # Quoted strings

A string stands between marks: double quotes, with escapes, or apostrophes, without; one of them on
each side for a string within a line, three for one that may span lines. It is read by a machine that
takes one character at a time. -/

namespace Scriptlet.Toml

/-- How a string is quoted. -/
structure Quoting where
  /-- Between apostrophes, where every character stands for itself. -/
  literal : Bool
  /-- Between three marks, where line breaks may stand too. -/
  multiline : Bool
  deriving DecidableEq, Repr

namespace Quoting

/-- The mark on both sides. -/
def mark (q : Quoting) : Char :=
  if q.literal then '\'' else '"'

/-- A character that stands for itself inside. -/
def plain (q : Quoting) (c : Char) : Bool :=
  c == '\t' || (0x20 ≤ c.toNat && c.toNat != 0x7F && c != q.mark && (q.literal || c != '\\'))

/-- Where the machine is. -/
inductive Mode where
  /-- Between characters. -/
  | text
  /-- After so many marks in a row. -/
  | marks (n : Nat)
  /-- After a backslash. -/
  | escape
  /-- In a code point with so many digits to come. -/
  | digits (left value : Nat)
  /-- After a backslash and blanks, before a line break. -/
  | beforeBreak
  /-- After an escaped line break, where blanks and line breaks do not count. -/
  | skipping
  /-- After a carriage return, which a line feed must follow; `skip` if neither counts. -/
  | carriageReturn (skip : Bool)
  deriving DecidableEq, Repr

/-- What the machine does with a character. -/
inductive Move where
  | fail
  /-- It gives characters and goes on. -/
  | go (out : List Char) (next : Mode)
  /-- It gives characters and stops behind the character, or before it if not `eaten`. -/
  | stop (out : List Char) (eaten : Bool)
  deriving DecidableEq, Repr

/-- What stands behind a backslash, other than a code point. -/
def escapes : List (Char × Char) :=
  [('b', Char.ofNat 0x08), ('t', '\t'), ('n', '\n'), ('f', Char.ofNat 0x0C), ('r', '\r'), ('"', '"'),
    ('\\', '\\')]

/-- The value of a hexadecimal digit. -/
def hexValue? (c : Char) : Option Nat :=
  if '0' ≤ c && c ≤ '9' then some (c.toNat - 48)
  else if 'a' ≤ c && c ≤ 'f' then some (c.toNat - 87)
  else if 'A' ≤ c && c ≤ 'F' then some (c.toNat - 55)
  else none

/-- The move on a character between characters. -/
def onText (q : Quoting) (c : Char) : Move :=
  if c == q.mark then (if q.multiline then .go [] (.marks 1) else .stop [] true)
  else if c == '\\' && !q.literal then .go [] .escape
  else if q.plain c then .go [c] .text
  else if q.multiline && c == '\n' then .go [c] .text
  else if q.multiline && c == '\r' then .go [] (.carriageReturn false)
  else .fail

/-- A move that gives `before` first. -/
def Move.after (before : List Char) : Move → Move
  | fail => fail
  | go out next => go (before ++ out) next
  | stop out eaten => stop (before ++ out) eaten

/-- The move on a character behind a backslash. -/
def onEscape (q : Quoting) (c : Char) : Move :=
  match escapes.find? fun e => e.1 == c with
  | some e => .go [e.2] .text
  | none =>
    if c == 'u' then .go [] (.digits 4 0)
    else if c == 'U' then .go [] (.digits 8 0)
    else if q.multiline && (c == ' ' || c == '\t') then .go [] .beforeBreak
    else if q.multiline && c == '\n' then .go [] .skipping
    else if q.multiline && c == '\r' then .go [] (.carriageReturn true)
    else .fail

/-- The move on a character of a code point. -/
def onDigit (left value : Nat) (c : Char) : Move :=
  match hexValue? c with
  | none => .fail
  | some d =>
    let value := 16 * value + d
    if 1 < left then .go [] (.digits (left - 1) value)
    else if value.isValidChar then .go [Char.ofNat value] .text
    else .fail

/-- The move on a character after `n` marks. Three end the string, and two more may belong to it. -/
def onMarks (q : Quoting) (n : Nat) (c : Char) : Move :=
  if c == q.mark then
    if n < 4 then .go [] (.marks (n + 1)) else .stop [q.mark, q.mark] true
  else if n < 3 then (onText q c).after (List.replicate n q.mark)
  else .stop (List.replicate (n - 3) q.mark) false

/-- The move on a character. -/
def move (q : Quoting) : Mode → Char → Move
  | .text, c => onText q c
  | .marks n, c => onMarks q n c
  | .escape, c => onEscape q c
  | .digits left value, c => onDigit left value c
  | .beforeBreak, c =>
    if c == ' ' || c == '\t' then .go [] .beforeBreak
    else if c == '\n' then .go [] .skipping
    else if c == '\r' then .go [] (.carriageReturn true)
    else .fail
  | .skipping, c =>
    if c == ' ' || c == '\t' || c == '\n' then .go [] .skipping
    else if c == '\r' then .go [] (.carriageReturn true)
    else onText q c
  | .carriageReturn skip, c =>
    if c != '\n' then .fail else if skip then .go [] .skipping else .go ['\n'] .text

/-- Runs the machine: the string and what follows its closing marks. -/
def read (q : Quoting) (m : Mode) : List Char → Option (List Char × List Char)
  | [] =>
    match m with
    | .marks n => if 3 ≤ n then some (List.replicate (n - 3) q.mark, []) else none
    | _ => none
  | c :: cs =>
    match q.move m c with
    | .fail => none
    | .go out next => (q.read next cs).map fun (s, rest) => (out ++ s, rest)
    | .stop out eaten => some (out, if eaten then cs else c :: cs)

end Quoting

/-- A line break right behind three opening marks does not count. -/
def dropLineBreak : List Char → List Char
  | '\n' :: cs => cs
  | '\r' :: '\n' :: cs => cs
  | cs => cs

/-- A string at the front of a text, with its marks. -/
def readString : List Char → Option (List Char × List Char)
  | '"' :: '"' :: '"' :: cs => Quoting.read ⟨false, true⟩ .text (dropLineBreak cs)
  | '"' :: cs => Quoting.read ⟨false, false⟩ .text cs
  | '\'' :: '\'' :: '\'' :: cs => Quoting.read ⟨true, true⟩ .text (dropLineBreak cs)
  | '\'' :: cs => Quoting.read ⟨true, false⟩ .text cs
  | _ => none

end Scriptlet.Toml
