import Scriptlet.Grammar.JavaScript

/-! # Languages by name -/

namespace Scriptlet

namespace Language

/-- The languages there are grammars for. -/
def supported : List String := [JavaScript.name]

/-- The names JavaScript goes by. -/
def javaScriptNames : List String := [JavaScript.name, "js", "jsx"]

/-- The grammar for a language name, in any case. -/
def grammar (parser : List Char → Option SyntaxNode) (name : String) : Except SyntaxError Grammar :=
  if javaScriptNames.contains (name.map Char.toLower) then .ok (.javaScript parser)
  else .error (.unknownLanguage name)

end Language

end Scriptlet
