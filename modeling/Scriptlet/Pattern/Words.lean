import Scriptlet.Pattern.Basic
import Scriptlet.Text.Utf8

/-! # Patterns that stand for words

Some patterns only stand for a few words, whatever else is written in them: a part that holds a set
without characters never matches, and neither does what is in a row with it. Such a pattern needs no
automaton, as its words can be looked for themselves. `wordsAlone?` finds them. -/

namespace Scriptlet.Pattern

/-- Words, the preferred ones first. -/
abbrev Words := List (List Char)

/-- More words than this are too many. -/
def wordCountLimit : Nat := 250

/-- More bytes than this are too many for a word. -/
def wordBytesLimit : Nat := 100

/-- More than so many members of a set, or copies in a row, are too many. -/
def wordChoiceLimit : Nat := 10

/-- The words, unless they are too many or too long. -/
def Words.limited (ws : Words) : Option Words :=
  if ws.length ≤ wordCountLimit && ws.all (Text.byteLength · ≤ wordBytesLimit) then some ws
  else none

/-- Each word followed by each of the others. -/
def Words.append? (ws others : Words) : Option Words :=
  Words.limited (ws.flatMap fun w => others.map (w ++ ·))

/-- The words a pattern stands for, if these are all that it matches. -/
def words? : Pattern → Option Words
  | empty => some [[]]
  | literal cs => Words.limited [cs]
  | one s =>
    if (s.ranges.map fun r => r.2 + 1 - r.1).sum ≤ wordChoiceLimit then
      some (s.ranges.flatMap fun r => (List.range' r.1 (r.2 + 1 - r.1)).map fun n => [Char.ofNat n])
    else none
  | assert _ => none
  | group _ => none
  | seq p q =>
    match p.words? with
    | some [] => some []
    | some ws => q.words?.bind ws.append?
    | none => none
  | alt p q => p.words?.bind fun ws => q.words?.bind fun others => Words.limited (ws ++ others)
  | repeated greedy lo hi p =>
    p.words?.bind fun ws =>
      match lo, hi with
      | 0, some 1 => Words.limited (if greedy then ws ++ [[]] else [] :: ws)
      | 0, _ => if ws.isEmpty then some [[]] else none
      | lo, hi =>
        if ws.isEmpty then some []
        else if hi = some lo ∧ lo ≤ wordChoiceLimit then
          (List.replicate lo ws).foldlM Words.append? [[]]
        else none

/-- The pattern has neither groups nor assertions. -/
def isPlain : Pattern → Bool
  | empty => true
  | literal _ => true
  | one _ => true
  | assert _ => false
  | group _ => false
  | seq p q => p.isPlain && q.isPlain
  | alt p q => p.isPlain && q.isPlain
  | repeated _ _ _ p => p.isPlain

/-- The words without those that start with one in front of them, and so are never found. -/
def Words.minimal (ws : Words) : Words :=
  ws.foldl (fun kept w => if kept.any (·.isPrefixOf w) then kept else kept ++ [w]) []

/-- What two words start with. -/
def commonPrefix : List Char → List Char → List Char
  | a :: as, b :: bs => if a = b then a :: commonPrefix as bs else []
  | _, _ => []

/-- The words can be looked for themselves: none is empty, there are few, and several do not start
alike. -/
def Words.searchable (ws : Words) : Bool :=
  match ws.minimal with
  | [] => false
  | w :: kept =>
    ws.all (!·.isEmpty) && kept.length < wordChoiceLimit &&
      (ws.length = 1 || (kept.foldl commonPrefix w).isEmpty)

/-- The words that can be looked for in place of the pattern. -/
def wordsAlone? (p : Pattern) : Option Words :=
  if p.isPlain then p.words?.filter Words.searchable else none

end Scriptlet.Pattern
