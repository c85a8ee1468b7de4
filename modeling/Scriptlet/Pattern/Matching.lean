import Scriptlet.Pattern.Program
import Scriptlet.Text.Cursor

/-! # Matching

The program of a pattern is followed along all its ways side by side, most preferred first. Between
two characters, `walk` lists the reads that can come next in order of preference; `reach` feeds it a
text. A way that accepts shuts out those behind it, so of the matches that start at a place the
preferred one is found, and `find?` takes the leftmost place that has one. -/

namespace Scriptlet

namespace Pattern

/-- What has been found at one place without reading. -/
structure Walk where
  /-- Which instructions have been passed. None is passed twice. -/
  passed : Array Bool
  /-- The reads that can come next, the last one first. -/
  reads : List (CharSet × Nat)
  accepted : Bool
  deriving DecidableEq, Repr

/-- Follows the ways that start at the indices, each as far as it goes before the next is begun. What
comes after accepting does not count. Every turn takes an index away and adds up to two in passing an
instruction, so `fuel` of the number of indices and twice that of instructions is never used up. -/
def follow (program : Array Instruction) (here : Place) : Nat → List Nat → Walk → Walk
  | 0, _, w => w
  | _ + 1, [], w => w
  | fuel + 1, i :: rest, w =>
    if w.passed.getD i true then follow program here fuel rest w
    else
      let w := { w with passed := w.passed.setIfInBounds i true }
      match program[i]? with
      | none => follow program here fuel rest w
      | some (.read s next) => follow program here fuel rest { w with reads := (s, next) :: w.reads }
      | some (.check a next) =>
        follow program here fuel (if a.holds here then next :: rest else rest) w
      | some (.jump next) => follow program here fuel (next :: rest) w
      | some (.fork first second) => follow program here fuel (first :: second :: rest) w
      | some .accept => { w with accepted := true }

/-- What can be found from the indices, most preferred first. -/
def walk (program : Array Instruction) (here : Place) (indices : List Nat) : Walk :=
  follow program here (indices.length + 2 * program.size) indices
    ⟨Array.replicate program.size false, [], false⟩

/-- The indices at which the ways go on after reading `c`. -/
def Walk.afterReading (w : Walk) (c : Char) : List Nat :=
  w.reads.foldl (fun indices r => if r.1.mem c then r.2 :: indices else indices) []

/-- Feeds the text to the ways at the indices. `read` counts the characters read so far and `best` is
the length of the match found so far. -/
def reach (program : Array Instruction) (before : Option Char) (indices : List Nat) (read : Nat)
    (best : Option Nat) : List Char → Option Nat
  | [] => if (walk program ⟨before, none⟩ indices).accepted then some read else best
  | c :: cs =>
    let w := walk program ⟨before, some c⟩ indices
    let best := if w.accepted then some read else best
    match w.afterReading c with
    | [] => best
    | i :: rest => reach program (some c) (i :: rest) (read + 1) best cs

/-- The length of the preferred match of a program that starts at the cursor. -/
def matchLength? (program : Array Instruction) (c : Text.Cursor) : Option Nat :=
  reach program c.before.head? [0] 0 none c.after

/-- As `find?`, from `skipped` characters right of where the search began. -/
def findFrom (program : Array Instruction) (before : List Char) (skipped : Nat) :
    List Char → Option (Nat × Nat)
  | [] => (matchLength? program ⟨before, []⟩).map fun n => (skipped, n)
  | c :: cs =>
    match matchLength? program ⟨before, c :: cs⟩ with
    | some n => some (skipped, n)
    | none => findFrom program (c :: before) (skipped + 1) cs

/-- The leftmost match at or after the cursor: how many characters to skip, and its length. -/
def find? (p : Pattern) (c : Text.Cursor) : Option (Nat × Nat) :=
  findFrom p.program c.before 0 c.after

/-- As `findAll`, from a cursor on. `last` is the end of the match before; an empty match there is
passed over by a character. Each call but the first starts further right, so `fuel` beyond the length
of the text by two is never used up. -/
def findAllFrom (p : Pattern) : Nat → Text.Cursor → Option Nat → List (Nat × Nat)
  | 0, _, _ => []
  | fuel + 1, c, last =>
    match p.find? c with
    | none => []
    | some (skip, size) =>
      if size = 0 ∧ last = some (c.column + skip) then
        match c.after with
        | [] => []
        | _ :: _ =>
          let c := c.advance 1
          match p.find? c with
          | none => []
          | some (skip, size) =>
            let stop := c.column + skip + size
            (c.column + skip, stop) :: findAllFrom p fuel (c.advance (skip + size)) (some stop)
      else
        let stop := c.column + skip + size
        (c.column + skip, stop) :: findAllFrom p fuel (c.advance (skip + size)) (some stop)

/-- The matches in the text from left to right, each starting at or after the end of the one before:
the offsets of their first character and of the one behind their last. -/
def findAll (p : Pattern) (text : List Char) : List (Nat × Nat) :=
  p.findAllFrom (text.length + 2) (.start text) none

/-- The pattern matches the empty text. -/
def matchesEmpty (p : Pattern) : Bool :=
  (p.find? (.start [])).isSome

end Pattern

end Scriptlet
