/-! # Lines

A line ends with a line feed, a carriage return, or the two together, and keeps its break. What
follows the last break is a line too, even if it is empty. `splitLines` gives the text back when its
lines are joined (`flatten_splitLines`). -/

namespace Scriptlet.Text

/-- The first line of `c :: text`, where `c` does not end a line and `ls` are the lines of `text`. -/
def consLine (c : Char) : List (List Char) → List (List Char)
  | [] => [[c]]
  | l :: ls => (c :: l) :: ls

/-- The lines of a text, breaks included. -/
def splitLines : List Char → List (List Char)
  | [] => [[]]
  | '\r' :: '\n' :: cs => ['\r', '\n'] :: splitLines cs
  | c :: cs => if c == '\n' || c == '\r' then [c] :: splitLines cs else consLine c (splitLines cs)

theorem flatten_consLine (c : Char) (ls : List (List Char)) :
    (consLine c ls).flatten = c :: ls.flatten := by
  cases ls <;> rfl

@[simp] theorem flatten_splitLines (cs : List Char) : (splitLines cs).flatten = cs := by
  fun_induction splitLines cs with
  | case1 => rfl
  | case2 cs ih => simp [ih]
  | case3 c cs _ _ ih => simp [ih]
  | case4 c cs _ _ ih => rw [flatten_consLine, ih]

/-- The offset of the first character of each line, the first line starting at `start`. -/
def lineStartsFrom (start : Nat) : List (List Char) → List Nat
  | [] => []
  | l :: ls => start :: lineStartsFrom (start + l.length) ls

@[simp] theorem length_lineStartsFrom (start : Nat) (ls : List (List Char)) :
    (lineStartsFrom start ls).length = ls.length := by
  induction ls generalizing start with
  | nil => rfl
  | cons l ls ih => simp [lineStartsFrom, ih]

end Scriptlet.Text
