import Scriptlet.Toml.Quoted

/-! # Writing TOML

Keys and strings in the form that needs fewest escapes. `string` and `key` choose the form, `quote`
writes it. -/

namespace Scriptlet.Toml.Writer

/-- A character that no form shows as it is, line feeds apart. -/
def isControl (c : Char) : Bool :=
  (c.toNat < 0x20 && c != '\t' && c != '\n') || c.toNat == 0x7F

/-- The text has three of the character in a row. `seen` counts those just before it. -/
def hasTriple (mark : Char) (seen : Nat) : List Char → Bool
  | [] => false
  | c :: cs =>
    if c == mark then (2 ≤ seen || hasTriple mark (seen + 1) cs) else hasTriple mark 0 cs

/-- The digits of a code point, four in all. -/
def fourDigits (n : Nat) : List Char :=
  let ds := (Nat.toDigits 16 n).map Char.toUpper
  List.replicate (4 - ds.length) '0' ++ ds

/-- The escape of a character other than the double quote, if it has one. -/
def escape? (multiline : Bool) (c : Char) : Option (List Char) :=
  if c == '\\' then some ['\\', '\\']
  else if c == '\t' then some ['\\', 't']
  else if c == '\n' then (if multiline then none else some ['\\', 'n'])
  else if c == '\r' then some ['\\', 'r']
  else if c.toNat == 0x08 then some ['\\', 'b']
  else if c.toNat == 0x0C then some ['\\', 'f']
  else if isControl c then some (['\\', 'u'] ++ fourDigits c.toNat)
  else none

/-- The text between double quotes, escapes put in. Between triple quotes only every third double
quote in a row is escaped; `seen` counts those just before. -/
def escaped (multiline : Bool) (seen : Nat) : List Char → List Char
  | [] => []
  | c :: cs =>
    if c == '"' then
      if multiline && seen < 2 then '"' :: escaped multiline (seen + 1) cs
      else '\\' :: '"' :: escaped multiline 0 cs
    else (escape? multiline c).getD [c] ++ escaped multiline 0 cs

/-- The text in the quotes of the form. A line break follows three opening marks if the text has one
itself. -/
def quote (q : Quoting) (cs : List Char) : List Char :=
  let marks := List.replicate (if q.multiline then 3 else 1) q.mark
  let lead := if q.multiline && cs.contains '\n' then ['\n'] else []
  marks ++ lead ++ (if q.literal then cs else escaped q.multiline 0 cs) ++ marks

/-- The form of a string value. -/
def stringForm (cs : List Char) : Quoting :=
  let control := cs.any isControl
  let broken := cs.contains '\n'
  if !control && !broken && !cs.contains '\\' && !cs.contains '"' then ⟨false, false⟩
  else if !control && !broken && !cs.contains '\'' then ⟨true, false⟩
  else if !control && !cs.contains '\\' && !hasTriple '"' 0 cs then ⟨false, true⟩
  else if !control && !hasTriple '\'' 0 cs then ⟨true, true⟩
  else ⟨false, broken⟩

/-- A string value. -/
def string (cs : List Char) : List Char :=
  quote (stringForm cs) cs

/-- A character of a key without quotes. -/
def isBareChar (c : Char) : Bool :=
  c.isAlphanum || c == '_' || c == '-'

/-- A key. -/
def key (cs : List Char) : List Char :=
  let control := cs.any isControl || cs.contains '\n'
  if !cs.isEmpty && cs.all isBareChar then cs
  else if !control && !cs.contains '\\' && !cs.contains '"' then quote ⟨false, false⟩ cs
  else if !control && !cs.contains '\'' then quote ⟨true, false⟩ cs
  else quote ⟨false, false⟩ cs

/-- A line with a key and a string. -/
def stringLine (k v : String) : List Char :=
  key k.toList ++ [' ', '=', ' '] ++ string v.toList ++ ['\n']

/-- A line with a key and a truth value. -/
def boolLine (k : String) (b : Bool) : List Char :=
  key k.toList ++ [' ', '=', ' '] ++ (if b then "true" else "false").toList ++ ['\n']

/-- A header and the lines of its table. -/
def tableText (name : String) (lines : List (List Char)) : List Char :=
  ['['] ++ name.toList ++ [']', '\n'] ++ lines.flatten

end Scriptlet.Toml.Writer
