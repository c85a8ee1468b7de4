import Scriptlet.Toml.Quoted
import Scriptlet.Toml.Scalar
import Scriptlet.Toml.Tree

/-! # Reading TOML

A document is a list of lines: a key with a value, the header of a table, the double header of one
table of many, or nothing but a comment. `read?` gives the entries of the document, and nothing for a
text that is not one. -/

namespace Scriptlet.Toml

/-- Arrays and inline tables, and the keys in a dotted key, are fewer than this. -/
def nestingLimit : Nat := 80

/-! ### Blanks, comments, line breaks -/

/-- Space or tab. -/
def isBlank (c : Char) : Bool := c == ' ' || c == '\t'

/-- The text without the blanks in front. -/
def skipBlanks (cs : List Char) : List Char := cs.dropWhile isBlank

/-- A character of a comment. -/
def isCommentChar (c : Char) : Bool :=
  c == '\t' || (0x20 ≤ c.toNat && c.toNat != 0x7F)

/-- The text without the comment in front, if there is one. -/
def skipComment : List Char → List Char
  | '#' :: cs => cs.dropWhile isCommentChar
  | cs => cs

/-- The text behind a line break in front or at the end. -/
def lineBreak? : List Char → Option (List Char)
  | [] => some []
  | '\n' :: cs => some cs
  | '\r' :: '\n' :: cs => some cs
  | _ => none

/-- The text behind the rest of a line on which nothing else may stand. -/
def endOfLine? (cs : List Char) : Option (List Char) :=
  lineBreak? (skipComment (skipBlanks cs))

/-- The text without the blanks, comments and line breaks in front. A comment ends with a break. -/
def skipLines : Nat → List Char → List Char
  | 0, cs => cs
  | fuel + 1, cs =>
    match skipComment (skipBlanks cs) with
    | '\n' :: rest => skipLines fuel rest
    | '\r' :: '\n' :: rest => skipLines fuel rest
    | _ => skipBlanks cs

/-! ### Keys -/

/-- A character of a key without quotes. -/
def isBareChar (c : Char) : Bool :=
  c.isAlphanum || c == '_' || c == '-'

/-- One part of a key: bare, or quoted within a line. -/
def readSimpleKey (cs : List Char) : Option (String × List Char) :=
  match cs with
  | '"' :: cs => (Quoting.read ⟨false, false⟩ .text cs).map fun (k, rest) => (String.ofList k, rest)
  | '\'' :: cs => (Quoting.read ⟨true, false⟩ .text cs).map fun (k, rest) => (String.ofList k, rest)
  | cs =>
    match cs.takeWhile isBareChar with
    | [] => none
    | k => some (String.ofList k, cs.dropWhile isBareChar)

/-- The parts of a key behind those in `before`, last first, with dots between. Blanks may stand
around each. -/
def readKeyParts : Nat → List String → List Char → Option (List String × List Char)
  | 0, _, _ => none
  | fuel + 1, before, cs =>
    match readSimpleKey (skipBlanks cs) with
    | none => none
    | some (k, rest) =>
      match skipBlanks rest with
      | '.' :: rest => readKeyParts fuel (k :: before) rest
      | rest => some (k :: before, rest)

/-- A key: the parts before the last, and the last. -/
def readKey (cs : List Char) : Option ((List String × String) × List Char) :=
  match readKeyParts nestingLimit [] cs with
  | some (k :: before, rest) =>
    if before.length + 1 < nestingLimit then some ((before.reverse, k), rest) else none
  | _ => none

/-! ### Values -/

mutual

/-- A value at the front of a text. `depth` counts the arrays and tables that may still be opened. -/
def readValue : Nat → Nat → List Char → Option (Value × List Char)
  | 0, _, _ => none
  | fuel + 1, depth, cs =>
    match cs with
    | '"' :: _ => (readString cs).map fun (s, rest) => (.string (String.ofList s), rest)
    | '\'' :: _ => (readString cs).map fun (s, rest) => (.string (String.ofList s), rest)
    | '[' :: rest =>
      match depth with
      | 0 => none
      | depth + 1 => readItems fuel depth [] rest
    | '{' :: rest =>
      match depth with
      | 0 => none
      | depth + 1 =>
        match skipBlanks rest with
        | '}' :: rest => some (.table [], rest)
        | rest => readPairs fuel depth [] rest
    | cs => readScalar cs

/-- The items of an array behind those in `before`, last first, up to its closing bracket. -/
def readItems : Nat → Nat → List Value → List Char → Option (Value × List Char)
  | 0, _, _, _ => none
  | fuel + 1, depth, before, cs =>
    match skipLines fuel cs with
    | ']' :: rest => some (.array before.reverse, rest)
    | cs =>
      match readValue fuel depth cs with
      | none => none
      | some (v, rest) =>
        match skipLines fuel rest with
        | ',' :: rest => readItems fuel depth (v :: before) rest
        | ']' :: rest => some (.array (v :: before).reverse, rest)
        | _ => none

/-- The pairs of an inline table behind those in `before`, up to its closing brace. -/
def readPairs : Nat → Nat → Entries → List Char → Option (Value × List Char)
  | 0, _, _, _ => none
  | fuel + 1, depth, before, cs =>
    match readKey cs with
    | some ((around, key), '=' :: rest) =>
      match readValue fuel depth (skipBlanks rest) with
      | none => none
      | some (v, rest) =>
        match Entries.put true v key around before with
        | none => none
        | some entries =>
          match skipBlanks rest with
          | ',' :: rest => readPairs fuel depth entries rest
          | '}' :: rest => some (.table (entriesToValues entries), rest)
          | _ => none
    | _ => none

end

/-! ### Documents -/

/-- A line of a document. -/
inductive Statement where
  /-- A value under a key, given as the parts before the last, and the last. -/
  | pair (around : List String) (key : String) (v : Value)
  | header (around : List String) (key : String)
  | doubleHeader (around : List String) (key : String)

/-- A line that is not empty. -/
def readStatement (fuel : Nat) (cs : List Char) : Option (Statement × List Char) :=
  match cs with
  | '[' :: '[' :: rest =>
    match readKey rest with
    | some ((around, key), ']' :: ']' :: rest) =>
      (endOfLine? rest).map fun rest => (.doubleHeader around key, rest)
    | _ => none
  | '[' :: rest =>
    match readKey rest with
    | some ((around, key), ']' :: rest) =>
      (endOfLine? rest).map fun rest => (.header around key, rest)
    | _ => none
  | cs =>
    match readKey cs with
    | some ((around, key), '=' :: rest) =>
      match readValue fuel (nestingLimit - 1) (skipBlanks rest) with
      | some (v, rest) => (endOfLine? rest).map fun rest => (.pair around key v, rest)
      | none => none
    | _ => none

/-- The lines of a text. Each call reads a character at least. -/
def readStatements : Nat → List Char → Option (List Statement)
  | 0, _ => none
  | fuel + 1, cs =>
    match skipBlanks cs with
    | [] => some []
    | '#' :: cs => (endOfLine? ('#' :: cs)).bind (readStatements fuel)
    | '\n' :: cs => readStatements fuel cs
    | '\r' :: '\n' :: cs => readStatements fuel cs
    | cs =>
      match readStatement fuel cs with
      | some (s, rest) => (readStatements fuel rest).map (s :: ·)
      | none => none

/-- The entries of a document whose lines are done one after the other. `here` is the table of the
last header. -/
def runStatements (here : List String) (es : Entries) : List Statement → Option Entries
  | [] => some es
  | .pair around key v :: rest =>
    match Entries.descend (Entries.put true v key around) here es with
    | some es => runStatements here es rest
    | none => none
  | .header around key :: rest =>
    match Entries.openTable around key es with
    | some es => runStatements (around ++ [key]) es rest
    | none => none
  | .doubleHeader around key :: rest =>
    match Entries.openItem around key es with
    | some es => runStatements (around ++ [key]) es rest
    | none => none

/-- The text without the byte order mark in front, if there is one. -/
def dropByteOrderMark : List Char → List Char
  | c :: cs => if c.toNat = 0xFEFF then cs else c :: cs
  | [] => []

/-- The entries of the document that a text is. -/
def read? (cs : List Char) : Option (List (String × Value)) :=
  let cs := dropByteOrderMark cs
  -- Every level of values and every line costs one step beside those for characters.
  let fuel := 2 * cs.length + 2
  ((readStatements fuel cs).bind (runStatements [] [])).map entriesToValues

end Scriptlet.Toml
