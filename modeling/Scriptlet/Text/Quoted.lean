import Scriptlet.Text.Hidden

/-! # Quoted text

Text between double quotes, with a backslash before what would end it and a code point for what
cannot be seen. -/

namespace Scriptlet.Text

/-- The digits of `n` in lower-case hexadecimal, without leading zeros. -/
def hexDigits (n : Nat) : List Char :=
  Nat.toDigits 16 n

/-- One character as quoted text shows it. -/
def quotedChar (c : Char) : List Char :=
  if c == '\\' || c == '"' then ['\\', c]
  else if c == '\n' then ['\\', 'n']
  else if c == '\r' then ['\\', 'r']
  else if c == '\t' then ['\\', 't']
  else if c.toNat == 0 then ['\\', '0']
  else if isHidden c then ['\\', 'u', '{'] ++ hexDigits c.toNat ++ ['}']
  else [c]

/-- The text between double quotes. -/
def quoted (s : String) : String :=
  String.ofList ('"' :: s.toList.flatMap quotedChar ++ ['"'])

end Scriptlet.Text
