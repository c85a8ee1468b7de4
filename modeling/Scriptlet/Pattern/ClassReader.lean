import Scriptlet.Pattern.Escape

/-! # Reading bracketed classes

A class is a union of characters, ranges, escapes, named ASCII classes and classes in brackets of
their own. Two unions may be joined by `&&`, `--` or `~~`: intersection, difference and symmetric
difference, taken from left to right. -/

namespace Scriptlet.Pattern

/-- How two unions of a class are joined. -/
inductive ClassOp where
  | inter
  | diff
  | symmDiff

/-- The set two sets are joined to. -/
def ClassOp.apply : ClassOp → CharSet → CharSet → CharSet
  | inter => CharSet.inter
  | diff => CharSet.diff
  | symmDiff => CharSet.symmDiff

/-- A set and how deep its nesting goes. -/
structure ClassPart where
  set : CharSet
  depth : Nat

/-- A class that has been read in part. -/
structure OpenClass where
  negated : Bool
  /-- What stands left of the last operator. -/
  left : Option (ClassOp × ClassPart)
  /-- The union being read, and how many members it has. -/
  union : CharSet
  members : Nat
  /-- How deep the nesting of its members goes. -/
  depth : Nat

namespace OpenClass

/-- The class with one more member. -/
def add (o : OpenClass) (s : CharSet) (depth : Nat) : OpenClass :=
  { o with union := .union o.union s, members := o.members + 1, depth := max o.depth depth }

/-- All that has been read, as one set. -/
def joined (flags : Flags) (o : OpenClass) : ClassPart :=
  let right : ClassPart := ⟨o.union, if o.members ≤ 1 then o.depth else o.depth + 1⟩
  match o.left with
  | none => right
  | some (op, left) =>
    ⟨op.apply (flags.foldSet left.set) (flags.foldSet right.set), 1 + max left.depth right.depth⟩

/-- The class ready for the right side of an operator. -/
def operator (flags : Flags) (o : OpenClass) (op : ClassOp) : OpenClass :=
  { negated := o.negated, left := some (op, o.joined flags), union := .none, members := 0, depth := 0 }

/-- The set of the whole class. -/
def close? (flags : Flags) (o : OpenClass) : Option ClassPart :=
  let part := o.joined flags
  let folded := flags.foldSet part.set
  (if o.negated then flags.negate? folded else some folded).map fun set => ⟨set, part.depth + 1⟩

end OpenClass

/-- The named ASCII classes. -/
def asciiClass? (name : List Char) : Option CharSet :=
  let table : List (String × List (Char × Char)) := [
    ("alnum", [('0', '9'), ('A', 'Z'), ('a', 'z')]),
    ("alpha", [('A', 'Z'), ('a', 'z')]),
    ("ascii", [(Char.ofNat 0, Char.ofNat 0x7F)]),
    ("blank", [('\t', '\t'), (' ', ' ')]),
    ("cntrl", [(Char.ofNat 0, Char.ofNat 0x1F), (Char.ofNat 0x7F, Char.ofNat 0x7F)]),
    ("digit", [('0', '9')]),
    ("graph", [('!', '~')]),
    ("lower", [('a', 'z')]),
    ("print", [(' ', '~')]),
    ("punct", [('!', '/'), (':', '@'), ('[', Char.ofNat 0x60), (Char.ofNat 0x7B, '~')]),
    ("space", [('\t', '\r'), (' ', ' ')]),
    ("upper", [('A', 'Z')]),
    ("word", [('0', '9'), ('A', 'Z'), ('_', '_'), ('a', 'z')]),
    ("xdigit", [('0', '9'), ('A', 'F'), ('a', 'f')])]
  (table.find? fun row => row.1.toList == name).map fun row => .ofRanges row.2

/-- A named ASCII class, after its opening bracket: whether it is negated, its set, and what follows. -/
def readAsciiClass (cs : List Char) : Option (Bool × CharSet × List Char) :=
  match cs with
  | ':' :: rest =>
    let (negated, rest) := match rest with
      | '^' :: rest => (true, rest)
      | rest => (false, rest)
    match rest.dropWhile (· != ':') with
    | ':' :: ']' :: after =>
      (asciiClass? (rest.takeWhile (· != ':'))).map fun s => (negated, s, after)
    | _ => none
  | _ => none

/-- One character or escape of a class. -/
def readClassAtom (flags : Flags) : List Char → Option (Atom × List Char)
  | [] => none
  | '\\' :: rest => readEscape flags rest
  | c :: rest => some (.literal c false, rest)

/-- The character may stand in a class. -/
def allowedInClass (flags : Flags) (c : Char) : Bool :=
  flags.unicode || c.toNat < 0x80

/-- The set an atom adds to a class. -/
def Atom.member (flags : Flags) : Atom → Option CharSet
  | .literal c _ => if allowedInClass flags c then some (.one c) else none
  | .set s => some s
  | .assert _ => none

/-- The range between two atoms. -/
def rangeOf (flags : Flags) : Atom → Atom → Option CharSet
  | .literal a _, .literal b _ =>
    if a ≤ b && allowedInClass flags a && allowedInClass flags b then some (.range a b) else none
  | _, _ => none

/-- The character that tells whether the minus in front of the text makes a range: the first that is
no blank and no number sign, where blanks are skipped. What follows a number sign is a comment, but a
character of it tells as well. -/
def charAfterMinus (flags : Flags) (cs : List Char) : Option Char :=
  if !flags.verbose then cs.head?
  else
    match cs.dropWhile Text.isBlank with
    | '#' :: rest => (rest.dropWhile Text.isBlank).head?.or cs.head?
    | c :: _ => some c
    | [] => cs.head?

/-- A character, escape or range of a class. A minus in front of a bracket or another minus does not
make a range. -/
def readClassMember (flags : Flags) (cs : List Char) : Option (CharSet × List Char) := do
  let (first, rest) ← readClassAtom flags cs
  match flags.skip rest with
  | [] => none
  | '-' :: after =>
    match charAfterMinus flags after with
    | some ']' => (first.member flags).map fun s => (s, '-' :: after)
    | some '-' => (first.member flags).map fun s => (s, '-' :: after)
    | _ =>
      let (last, rest) ← readClassAtom flags (flags.skip after)
      let s ← rangeOf flags first last
      some (s, rest)
  | rest => (first.member flags).map fun s => (s, rest)

/-- Minus signs at the front of a class stand for themselves. -/
def takeMinuses (flags : Flags) : Nat → OpenClass → List Char → OpenClass × List Char
  | 0, o, cs => (o, cs)
  | fuel + 1, o, cs =>
    match cs with
    | '-' :: rest => takeMinuses flags fuel (o.add (.one '-') 0) (flags.skip rest)
    | cs => (o, cs)

/-- The start of a class, after its opening bracket: a caret, minus signs, and a closing bracket that
stands for itself. -/
def readClassStart (flags : Flags) (cs : List Char) : OpenClass × List Char :=
  let (negated, cs) := match flags.skip cs with
    | '^' :: rest => (true, flags.skip rest)
    | rest => (false, rest)
  let (o, cs) := takeMinuses flags cs.length ⟨negated, none, .none, 0, 0⟩ cs
  match cs with
  | ']' :: rest => if o.members = 0 then (o.add (.one ']') 0, flags.skip rest) else (o, cs)
  | cs => (o, cs)

/-- Reads a class up to its closing bracket. Each call reads a character at least, so `fuel` beyond
the length of the text is never used up. -/
def readClassRest (flags : Flags) : Nat → OpenClass → List Char → Option (ClassPart × List Char)
  | 0, _, _ => none
  | fuel + 1, o, cs =>
    match flags.skip cs with
    | [] => none
    | '[' :: rest =>
      match readAsciiClass rest with
      | some (negated, s, rest) =>
        match if negated then flags.negate? (flags.foldSet s) else some (flags.foldSet s) with
        | some s => readClassRest flags fuel (o.add s 0) rest
        | none => none
      | none =>
        let (inner, rest) := readClassStart flags rest
        match readClassRest flags fuel inner rest with
        | some (part, rest) => readClassRest flags fuel (o.add part.set part.depth) rest
        | none => none
    | ']' :: rest => (o.close? flags).map fun part => (part, rest)
    | '&' :: '&' :: rest => readClassRest flags fuel (o.operator flags .inter) rest
    | '-' :: '-' :: rest => readClassRest flags fuel (o.operator flags .diff) rest
    | '~' :: '~' :: rest => readClassRest flags fuel (o.operator flags .symmDiff) rest
    | cs =>
      match readClassMember flags cs with
      | some (s, rest) => readClassRest flags fuel (o.add s 0) rest
      | none => none

/-- A class, after its opening bracket: its set, its depth and what follows. -/
def readClass (flags : Flags) (cs : List Char) : Option (CharSet × Nat × List Char) :=
  let (o, rest) := readClassStart flags cs
  (readClassRest flags (cs.length + 1) o rest).map fun (part, rest) => (part.set, part.depth, rest)

end Scriptlet.Pattern
