import Scriptlet.SyntaxError
import Scriptlet.Token.Basic

/-! # Grammars -/

namespace Scriptlet

/-- A way of turning the text of a fragment into a tree of tokens with ranges in bytes. -/
structure Grammar where
  /-- The name in events and errors. -/
  name : String
  parse : List Char → Except SyntaxError TokenTree

end Scriptlet
