import Scriptlet.Decoration.Basic

/-! # JSON output

Decorations are printed as JSON, in one line or with an entry to a line. -/

namespace Scriptlet

/-- A JSON value. The fields of an object keep their order. -/
inductive Json where
  | number (n : Nat)
  | string (s : String)
  | array (items : List Json)
  | object (fields : List (String × Json))

namespace Json

/-- The digits of a control character, two in all. -/
def twoDigits (n : Nat) : List Char :=
  let ds := Nat.toDigits 16 n
  List.replicate (2 - ds.length) '0' ++ ds

/-- A character of a string. -/
def escaped (c : Char) : List Char :=
  if c == '"' || c == '\\' then ['\\', c]
  else if c == '\n' then ['\\', 'n']
  else if c == '\r' then ['\\', 'r']
  else if c == '\t' then ['\\', 't']
  else if c.toNat == 0x08 then ['\\', 'b']
  else if c.toNat == 0x0C then ['\\', 'f']
  else if c.toNat < 0x20 then ['\\', 'u', '0', '0'] ++ twoDigits c.toNat
  else [c]

/-- A string between double quotes. -/
def quote (s : String) : List Char :=
  '"' :: s.toList.flatMap escaped ++ ['"']

mutual

/-- A value in one line without blanks. -/
def compact : Json → List Char
  | number n => (toString n).toList
  | string s => quote s
  | array items => '[' :: compactItems items ++ [']']
  | object fields => '{' :: compactFields fields ++ ['}']

/-- The items of an array with commas between. -/
def compactItems : List Json → List Char
  | [] => []
  | [v] => compact v
  | v :: w :: rest => compact v ++ ',' :: compactItems (w :: rest)

/-- The fields of an object with commas between. -/
def compactFields : List (String × Json) → List Char
  | [] => []
  | [(k, v)] => quote k ++ ':' :: compact v
  | (k, v) :: w :: rest => quote k ++ ':' :: compact v ++ ',' :: compactFields (w :: rest)

end

/-- A line break and two spaces for each level. -/
def newLine (level : Nat) : List Char :=
  '\n' :: List.replicate (2 * level) ' '

mutual

/-- A value with an entry to a line, at a level. -/
def pretty (level : Nat) : Json → List Char
  | number n => (toString n).toList
  | string s => quote s
  | array [] => ['[', ']']
  | array (v :: rest) =>
    '[' :: prettyItems (level + 1) (v :: rest) ++ newLine level ++ [']']
  | object [] => ['{', '}']
  | object (f :: rest) =>
    '{' :: prettyFields (level + 1) (f :: rest) ++ newLine level ++ ['}']

/-- The items of an array, each on a line of its own. -/
def prettyItems (level : Nat) : List Json → List Char
  | [] => []
  | [v] => newLine level ++ pretty level v
  | v :: w :: rest => newLine level ++ pretty level v ++ ',' :: prettyItems level (w :: rest)

/-- The fields of an object, each on a line of its own. -/
def prettyFields (level : Nat) : List (String × Json) → List Char
  | [] => []
  | [(k, v)] => newLine level ++ quote k ++ ':' :: ' ' :: pretty level v
  | (k, v) :: w :: rest =>
    newLine level ++ quote k ++ ':' :: ' ' :: pretty level v ++ ',' :: prettyFields level (w :: rest)

end

end Json

/-! ### Decorations -/

/-- Attributes as an object. -/
def Attributes.toJson (as : Attributes) : Json :=
  .object (as.map fun a => (a.1, .string a.2))

/-- A line decoration as an object. -/
def LineMark.toJson (l : LineMark) : Json :=
  .object [("line_start", .number l.lineStart), ("class", .string l.cls),
    ("attributes", Attributes.toJson l.attributes)]

/-- A mark as an object, without attributes if there are none. -/
def Mark.toJson (m : Mark) : Json :=
  .object ([("from", .number m.start), ("to", .number m.stop), ("class", .string m.cls)]
    ++ if m.attributes.isEmpty then [] else [("attributes", Attributes.toJson m.attributes)])

/-- A region as an object. -/
def Region.toJson (r : Region) : Json :=
  .object [("start", .number r.start), ("end", .number r.stop), ("kind", .string r.kind.name)]

/-- Decorations as an object. -/
def Decorations.toJson (d : Decorations) : Json :=
  .object [("lines", .array (d.lines.map LineMark.toJson)),
    ("marks", .array (d.marks.map Mark.toJson)),
    ("unhighlighted", .array (d.unhighlighted.map Region.toJson))]

end Scriptlet
