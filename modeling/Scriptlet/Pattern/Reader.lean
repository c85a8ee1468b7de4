import Scriptlet.Pattern.ClassReader
import Scriptlet.Pattern.Footprint
import Scriptlet.Pattern.Words
import Scriptlet.Text.Alphabetic
import Scriptlet.Text.Numeric

/-! # Reading patterns

Patterns are written as regular expressions: literals, escapes, `.`, bracketed classes, groups with
or without a name or flags, alternation, greedy and lazy repetition, and assertions about the place.
There is no look-around and no reference to a group. `ofText?` gives the pattern that a text stands
for, and nothing if the text is not one or stands for one that is too large. -/

namespace Scriptlet.Pattern

/-- Groups, classes, repetitions, alternations and sequences may be nested this deep. -/
def nestingLimit : Nat := 250

/-- What carries over from one part of a pattern to the next. -/
structure Scope where
  flags : Flags
  /-- The group names used so far. -/
  names : List (List Char)

/-- A part that has been read. -/
structure Piece where
  pattern : Pattern
  /-- How deep its nesting goes. -/
  depth : Nat
  /-- It stands for something a repetition can apply to. -/
  repeatable : Bool

namespace Piece

/-- A part without parts of its own. -/
def leaf (p : Pattern) : Piece :=
  ⟨p, 0, true⟩

/-- What a group that only sets flags leaves behind. -/
def flagsOnly : Piece :=
  ⟨.empty, 0, false⟩

/-- The parts put together by `together`, last part first; no part at all matches the empty text. -/
def join (together : List Pattern → Pattern) : List Piece → Piece
  | [] => ⟨.empty, 0, false⟩
  | [p] => p
  | ps =>
    ⟨together (ps.reverse.map pattern), 1 + ps.foldl (fun d p => max d p.depth) 0, true⟩

/-- A sequence, last part first. -/
def seq (ps : List Piece) : Piece :=
  join concat ps

/-- Alternatives, last one first. -/
def alt (ps : List Piece) : Piece :=
  join choose ps

/-- The part in parentheses, which may make it a group. -/
def inParens (isGroup : Bool) (p : Piece) : Piece :=
  ⟨if isGroup then .group p.pattern else p.pattern, p.depth + 1, true⟩

end Piece

/-- Applies a repetition to the last part of a sequence. -/
def repeatLast (greedy : Bool) (lo : Nat) (hi : Option Nat) : List Piece → Option (List Piece)
  | [] => none
  | p :: ps =>
    if p.repeatable then some (⟨repeatedly greedy lo hi p.pattern, p.depth + 1, true⟩ :: ps)
    else none

/-! ### Counts -/

/-- Counts are at most this. -/
def countLimit : Nat := 0xffffffff

/-- Splits off the digits at the front, with nothing but skipped text between them. -/
def takeDigits (flags : Flags) : Nat → List Char → List Char × List Char
  | 0, cs => ([], cs)
  | fuel + 1, cs =>
    match cs with
    | c :: rest =>
      if c.isDigit then
        let (ds, rest) := takeDigits flags fuel (flags.skip rest)
        (c :: ds, rest)
      else ([], cs)
    | [] => ([], [])

/-- The value of a string of decimal digits. -/
def decimalValue (ds : List Char) : Nat :=
  ds.foldl (fun n d => 10 * n + (d.toNat - 48)) 0

/-- A count with blanks around it. -/
def readCount (flags : Flags) (cs : List Char) : Option (Nat × List Char) :=
  let (ds, rest) := takeDigits flags (cs.length + 1) (cs.dropWhile Text.isBlank)
  if ds.isEmpty || countLimit < decimalValue ds then none
  else some (decimalValue ds, flags.skip (rest.dropWhile Text.isBlank))

/-- The bounds of a counted repetition, after its opening brace. -/
def readBounds (flags : Flags) (cs : List Char) : Option (Nat × Option Nat × List Char) := do
  let (lo, rest) ← readCount flags (flags.skip cs)
  match rest with
  | '}' :: rest => some (lo, some lo, rest)
  | ',' :: rest =>
    match flags.skip rest with
    | '}' :: rest => some (lo, none, rest)
    | rest =>
      let (hi, rest) ← readCount flags rest
      match rest with
      | '}' :: rest => if lo ≤ hi then some (lo, some hi, rest) else none
      | _ => none
  | _ => none

/-- A question mark makes the repetition before it lazy, or greedy where lazy is the rule. -/
def readGreed (flags : Flags) : List Char → Bool × List Char
  | '?' :: rest => (flags.swapGreed, rest)
  | rest => (!flags.swapGreed, rest)

/-! ### Groups -/

/-- The character may start a group name. -/
def isNameStart (c : Char) : Bool :=
  c == '_' || Text.isAlphabetic c

/-- The character may continue a group name. -/
def isNameRest (c : Char) : Bool :=
  isNameStart c || Text.isNumeric c || c == '.' || c == '[' || c == ']'

/-- A group name and the bracket that ends it. -/
def readName (cs : List Char) : Option (List Char × List Char) :=
  match cs.takeWhile (· != '>'), cs.dropWhile (· != '>') with
  | c :: name, '>' :: rest =>
    if isNameStart c && name.all isNameRest then some (c :: name, rest) else none
  | _, _ => none

/-- What the parenthesis at the front opens. -/
inductive GroupStart where
  /-- Nothing: it sets flags for what follows. -/
  | sets (flags : Flags)
  /-- A part in parentheses, to be read in the scope. -/
  | opens (isGroup : Bool) (scope : Scope)

/-- The flags of a group up to the colon or parenthesis that ends them. `seen` holds the letters so
far and `off` says that the minus has been passed. -/
def readFlags (flags : Flags) (seen : List Char) (off : Bool) :
    List Char → Option (Flags × List Char × List Char)
  | [] => none
  | c :: rest =>
    if c == ':' || c == ')' then
      if seen.head? == some '-' then none else some (flags, seen, c :: rest)
    else if seen.contains c then none
    else if c == '-' then readFlags flags (c :: seen) true rest
    else
      match flags.set? c (!off) with
      | some flags => readFlags flags (c :: seen) off rest
      | none => none

/-- A group with a name, after the bracket that opens the name. -/
def readNamedGroup (scope : Scope) (cs : List Char) : Option (GroupStart × List Char) := do
  let (name, rest) ← readName cs
  if scope.names.contains name then none
  else some (.opens true { scope with names := name :: scope.names }, rest)

/-- Reads what follows an opening parenthesis. -/
def readGroupStart (scope : Scope) (cs : List Char) : Option (GroupStart × List Char) :=
  match scope.flags.skip cs with
  | '?' :: '=' :: _ => none
  | '?' :: '!' :: _ => none
  | '?' :: '<' :: '=' :: _ => none
  | '?' :: '<' :: '!' :: _ => none
  | '?' :: 'P' :: '<' :: rest => readNamedGroup scope rest
  | '?' :: '<' :: rest => readNamedGroup scope rest
  | '?' :: rest =>
    match readFlags scope.flags [] false rest with
    | some (flags, _, ':' :: rest) => some (.opens false { scope with flags }, rest)
    | some (flags, seen, ')' :: rest) => if seen.isEmpty then none else some (.sets flags, rest)
    | _ => none
  | rest => some (.opens true scope, rest)

/-! ### The whole pattern -/

/-- What a dot stands for. -/
def dot (flags : Flags) : Option Pattern :=
  if !flags.unicode then none
  else if flags.dotAll then some (.one .all)
  else if flags.anyLineBreak then some (.one (CharSet.ofList ['\n', '\r']).compl)
  else some (.one (CharSet.one '\n').compl)

/-- What a caret stands for. -/
def caret (flags : Flags) : Pattern :=
  .assert (if !flags.multiLine then .textStart
    else if flags.anyLineBreak then .anyLineStart else .lineStart)

/-- What a dollar sign stands for. -/
def dollar (flags : Flags) : Pattern :=
  .assert (if !flags.multiLine then .textEnd
    else if flags.anyLineBreak then .anyLineEnd else .lineEnd)

/-- What an escape stands for outside a class. -/
def Atom.pattern? (flags : Flags) : Atom → Option Pattern
  | .literal c asByte => flags.literal? c asByte
  | .set s => some (.ofSet s)
  | .assert a => some (.assert a)

/-- Reads alternatives up to a closing parenthesis or the end. `alts` holds the finished ones and
`parts` the parts of the one being read, both last first. Each call reads a character at least, so
`fuel` beyond the length of the text is never used up. -/
def readAlternatives : Nat → Scope → List Piece → List Piece → List Char →
    Option (Piece × Scope × List Char)
  | 0, _, _, _, _ => none
  | fuel + 1, scope, alts, parts, cs =>
    match scope.flags.skip cs with
    | [] => some (.alt (.seq parts :: alts), scope, [])
    | ')' :: rest => some (.alt (.seq parts :: alts), scope, ')' :: rest)
    | '|' :: rest => readAlternatives fuel scope (.seq parts :: alts) [] rest
    | '(' :: rest =>
      match readGroupStart scope rest with
      | some (.sets flags, rest) =>
        readAlternatives fuel { scope with flags } alts (.flagsOnly :: parts) rest
      | some (.opens isGroup inner, rest) =>
        match readAlternatives fuel inner [] [] rest with
        | some (body, inner, ')' :: rest) =>
          readAlternatives fuel { scope with names := inner.names } alts (body.inParens isGroup :: parts) rest
        | _ => none
      | none => none
    | '[' :: rest =>
      match readClass scope.flags rest with
      | some (s, depth, rest) =>
        readAlternatives fuel scope alts (⟨.ofSet s, depth, true⟩ :: parts) rest
      | none => none
    | '?' :: rest =>
      let (greedy, rest) := readGreed scope.flags rest
      match repeatLast greedy 0 (some 1) parts with
      | some parts => readAlternatives fuel scope alts parts rest
      | none => none
    | '*' :: rest =>
      let (greedy, rest) := readGreed scope.flags rest
      match repeatLast greedy 0 none parts with
      | some parts => readAlternatives fuel scope alts parts rest
      | none => none
    | '+' :: rest =>
      let (greedy, rest) := readGreed scope.flags rest
      match repeatLast greedy 1 none parts with
      | some parts => readAlternatives fuel scope alts parts rest
      | none => none
    | '{' :: rest =>
      match readBounds scope.flags rest with
      | some (lo, hi, rest) =>
        let (greedy, rest) := readGreed scope.flags (scope.flags.skip rest)
        match repeatLast greedy lo hi parts with
        | some parts => readAlternatives fuel scope alts parts rest
        | none => none
      | none => none
    | '\\' :: rest =>
      match readEscape scope.flags rest with
      | some (atom, rest) =>
        match atom.pattern? scope.flags with
        | some p => readAlternatives fuel scope alts (.leaf p :: parts) rest
        | none => none
      | none => none
    | '.' :: rest =>
      match dot scope.flags with
      | some p => readAlternatives fuel scope alts (.leaf p :: parts) rest
      | none => none
    | '^' :: rest => readAlternatives fuel scope alts (.leaf (caret scope.flags) :: parts) rest
    | '$' :: rest => readAlternatives fuel scope alts (.leaf (dollar scope.flags) :: parts) rest
    | c :: rest =>
      match scope.flags.literal? c false with
      | some p => readAlternatives fuel scope alts (.leaf p :: parts) rest
      | none => none

/-- The pattern a text stands for, whatever its size. -/
def parse? (text : List Char) : Option Pattern :=
  match readAlternatives (text.length + 1) ⟨{}, []⟩ [] [] text with
  | some (piece, _, []) => if piece.depth ≤ nestingLimit then some piece.pattern else none
  | _ => none

/-- The pattern a text stands for, if it is one and not too large. One that is too large can be used all
the same if it stands for nothing but a few words. -/
def ofText? (text : String) : Option Pattern :=
  (parse? text.toList).bind fun p =>
    if p.fits then some p else p.wordsAlone?.map fun ws => ofChoices (ws.map literal)

end Scriptlet.Pattern
