import Scriptlet.Pattern.Normal

/-! # Flags and escapes

The flags that change how the parts of a pattern are read, and the escapes: a backslash and what
follows it, inside a bracketed class or outside. -/

namespace Scriptlet.Pattern

/-- How the rest of a pattern is read. -/
structure Flags where
  /-- `i`: letters stand for both cases. -/
  ignoreCase : Bool := false
  /-- `m`: `^` and `$` also hold at line breaks. -/
  multiLine : Bool := false
  /-- `s`: a dot also stands for a line feed. -/
  dotAll : Bool := false
  /-- `U`: repetitions are lazy unless marked. -/
  swapGreed : Bool := false
  /-- `u`: named sets and cases go beyond ASCII. -/
  unicode : Bool := true
  /-- `R`: carriage returns end lines too. -/
  anyLineBreak : Bool := false
  /-- `x`: blanks and comments are skipped. -/
  verbose : Bool := false

namespace Flags

/-- The flags with the one of the given letter on or off, if the letter names one. -/
def set? (f : Flags) (letter : Char) (on : Bool) : Option Flags :=
  match letter with
  | 'i' => some { f with ignoreCase := on }
  | 'm' => some { f with multiLine := on }
  | 's' => some { f with dotAll := on }
  | 'U' => some { f with swapGreed := on }
  | 'u' => some { f with unicode := on }
  | 'R' => some { f with anyLineBreak := on }
  | 'x' => some { f with verbose := on }
  | _ => none

/-- Drops blanks, and comments from a number sign to the end of its line. -/
def skipBlank (inComment : Bool) : List Char → List Char
  | [] => []
  | c :: cs =>
    if inComment then skipBlank (c != '\n') cs
    else if Text.isBlank c then skipBlank false cs
    else if c == '#' then skipBlank true cs
    else c :: cs

/-- Drops what the flags say is not part of the pattern. -/
def skip (f : Flags) (cs : List Char) : List Char :=
  if f.verbose then skipBlank false cs else cs

/-- The set in both cases, where case is ignored. -/
def foldSet (f : Flags) (s : CharSet) : CharSet :=
  if !f.ignoreCase then s else if f.unicode then s.anyCase else s.asciiCase

/-- What a literal character stands for. A literal given as a byte beyond U+007F stands for none where
characters are bytes. -/
def literal? (f : Flags) (c : Char) (asByte : Bool) : Option Pattern :=
  if !f.unicode && asByte && 0x80 ≤ c.toNat then none
  else some (.ofSet (f.foldSet (.one c)))

/-- The complement. Where characters are bytes it would hold bytes that are no characters. -/
def negate? (f : Flags) (s : CharSet) : Option CharSet :=
  if f.unicode then some s.compl else none

/-- The characters of words. -/
def word (f : Flags) : CharSet :=
  if f.unicode then .word else .ofRanges [('0', '9'), ('A', 'Z'), ('_', '_'), ('a', 'z')]

/-- The decimal digits. -/
def digit (f : Flags) : CharSet :=
  if f.unicode then .digit else .range '0' '9'

/-- White space. -/
def blank (f : Flags) : CharSet :=
  if f.unicode then .blank else .ofRanges [('\t', '\r'), (' ', ' ')]

end Flags

/-- What an escape stands for. -/
inductive Atom where
  /-- A character, given as a byte or otherwise. -/
  | literal (c : Char) (asByte : Bool)
  | set (s : CharSet)
  | assert (a : Assertion)

/-- The value of a hexadecimal digit. -/
def hexValue? (c : Char) : Option Nat :=
  if '0' ≤ c && c ≤ '9' then some (c.toNat - 48)
  else if 'a' ≤ c && c ≤ 'f' then some (c.toNat - 87)
  else if 'A' ≤ c && c ≤ 'F' then some (c.toNat - 55)
  else none

/-- The character with the code point, if there is one. -/
def charOf? (n : Nat) : Option Char :=
  if n.isValidChar then some (Char.ofNat n) else none

/-- Exactly `n` hexadecimal digits. -/
def readHexDigits (f : Flags) : Nat → Nat → List Char → Option (Nat × List Char)
  | 0, value, cs => some (value, cs)
  | n + 1, value, cs =>
    match cs with
    | c :: rest => (hexValue? c).bind fun d => readHexDigits f n (16 * value + d) (f.skip rest)
    | [] => none

/-- One or more hexadecimal digits and a closing brace. -/
def readHexBraced (f : Flags) : Nat → Option Nat → List Char → Option (Nat × List Char)
  | 0, _, _ => none
  | fuel + 1, value, cs =>
    match f.skip cs with
    | '}' :: rest => value.map fun v => (v, f.skip rest)
    | c :: rest =>
      (hexValue? c).bind fun d => readHexBraced f fuel (some (16 * value.getD 0 + d)) rest
    | [] => none

/-- A character by its code point, in braces or with a fixed number of digits. -/
def readCodePoint (f : Flags) (digits : Nat) (isByte : Bool) (cs : List Char) :
    Option (Atom × List Char) :=
  match f.skip cs with
  | '{' :: rest => do
    let (n, rest) ← readHexBraced f (rest.length + 1) none rest
    let c ← charOf? n
    some (.literal c false, rest)
  | rest => do
    let (n, rest) ← readHexDigits f digits 0 rest
    let c ← charOf? n
    some (.literal c isByte, rest)

/-- A character that stands for itself after a backslash: any ASCII character but letters, digits
and angle brackets. -/
def isEscapable (c : Char) : Bool :=
  c.toNat < 0x80 && !c.isAlphanum && c != '<' && c != '>'

/-- The letters of a braced word assertion, with nothing but skipped text between them. -/
def takeAssertionName (f : Flags) : Nat → List Char → List Char × List Char
  | 0, cs => ([], cs)
  | fuel + 1, cs =>
    match cs with
    | c :: rest =>
      if c.isAlpha || c == '-' then
        let (name, rest) := takeAssertionName f fuel (f.skip rest)
        (c :: name, rest)
      else ([], cs)
    | [] => ([], [])

/-- The word assertion after a backslash and a `b`, which may name its side in braces. Braces that
do not hold a name are left for a count. -/
def readWordAssertion (f : Flags) (cs : List Char) : Option (Atom × List Char) :=
  match cs with
  | '{' :: inner =>
    match takeAssertionName f (inner.length + 1) (f.skip inner), f.skip inner with
    | _, [] => none
    | ([], _), _ => some (.assert (.wordEdge !f.unicode), cs)
    | (name, '}' :: rest), _ =>
      if name == "start".toList then some (.assert (.wordStart !f.unicode), rest)
      else if name == "end".toList then some (.assert (.wordEnd !f.unicode), rest)
      else if name == "start-half".toList then some (.assert (.wordStartHalf !f.unicode), rest)
      else if name == "end-half".toList then some (.assert (.wordEndHalf !f.unicode), rest)
      else none
    | _, _ => none
  | _ => some (.assert (.wordEdge !f.unicode), cs)

/-- Reads what follows a backslash. References to groups and named property classes are unknown. -/
def readEscape (f : Flags) : List Char → Option (Atom × List Char)
  | [] => none
  | c :: rest =>
    match c with
    | 'x' => readCodePoint f 2 true rest
    | 'u' => readCodePoint f 4 false rest
    | 'U' => readCodePoint f 8 false rest
    | 'd' => some (.set f.digit, rest)
    | 's' => some (.set f.blank, rest)
    | 'w' => some (.set f.word, rest)
    | 'D' => (f.negate? f.digit).map fun s => (.set s, rest)
    | 'S' => (f.negate? f.blank).map fun s => (.set s, rest)
    | 'W' => (f.negate? f.word).map fun s => (.set s, rest)
    | 'a' => some (.literal (Char.ofNat 0x07) false, rest)
    | 'f' => some (.literal (Char.ofNat 0x0C) false, rest)
    | 't' => some (.literal '\t' false, rest)
    | 'n' => some (.literal '\n' false, rest)
    | 'r' => some (.literal '\r' false, rest)
    | 'v' => some (.literal (Char.ofNat 0x0B) false, rest)
    | 'A' => some (.assert .textStart, rest)
    | 'z' => some (.assert .textEnd, rest)
    | 'b' => readWordAssertion f rest
    | 'B' => some (.assert (.notWordEdge !f.unicode), rest)
    | '<' => some (.assert (.wordStart !f.unicode), rest)
    | '>' => some (.assert (.wordEnd !f.unicode), rest)
    | c => if isEscapable c then some (.literal c false, rest) else none

end Scriptlet.Pattern
