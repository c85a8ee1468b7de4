import Scriptlet.Text.Utf8

/-! # Cursors

A cursor is a place in a text: what lies before it, nearest character first, and what lies after it.
Searching moves a cursor to the right and never changes the text (`advance_text`). -/

namespace Scriptlet.Text

/-- A place between two characters of a text. -/
structure Cursor where
  /-- The characters before the place, nearest first. -/
  before : List Char
  /-- The characters after the place, nearest first. -/
  after : List Char
  deriving DecidableEq, Repr

namespace Cursor

/-- The place in front of the text. -/
def start (text : List Char) : Cursor :=
  ⟨[], text⟩

/-- The whole text. -/
def text (c : Cursor) : List Char :=
  c.before.reverse ++ c.after

/-- How many characters lie before the place. -/
def column (c : Cursor) : Nat :=
  c.before.length

/-- The place `n` characters further right, or the end if there are fewer. -/
def advance : Nat → Cursor → Cursor
  | 0, c => c
  | _ + 1, ⟨before, []⟩ => ⟨before, []⟩
  | n + 1, ⟨before, a :: after⟩ => advance n ⟨a :: before, after⟩

@[simp] theorem advance_text (n : Nat) (c : Cursor) : (advance n c).text = c.text := by
  fun_induction advance n c with
  | case1 => rfl
  | case2 => rfl
  | case3 n before a after ih => simpa [text] using ih

theorem advance_after (n : Nat) (c : Cursor) : (advance n c).after = c.after.drop n := by
  fun_induction advance n c with
  | case1 => rfl
  | case2 => rfl
  | case3 n before a after ih => simpa using ih

theorem advance_column (n : Nat) (c : Cursor) :
    (advance n c).column = c.column + min n c.after.length := by
  fun_induction advance n c with
  | case1 => simp
  | case2 => simp
  | case3 n before a after ih => simp [column] at ih ⊢; omega

end Cursor

end Scriptlet.Text
