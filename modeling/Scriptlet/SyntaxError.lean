import Scriptlet.Text.Quoted

/-! # Errors of the highlighting half

What can go wrong between a piece of text and its tokens, and the one place that words it. -/

namespace Scriptlet

/-- Why text could not be turned into tokens. -/
inductive SyntaxError where
  /-- No grammar goes by the name. -/
  | unknownLanguage (name : String)
  /-- The grammar of that name could not be set up. -/
  | setupFailed (grammar : String)
  /-- The grammar gave no tree for a fragment of so many bytes. -/
  | parseFailed (grammar : String) (bytes : Nat)
  /-- The text is no pattern for a delimiter. The reason is absent if it is no pattern at all. -/
  | invalidPattern (pattern : String) (reason : Option String)
  /-- A token would lie beyond the largest offset. -/
  | offsetOverflow
  deriving DecidableEq, Repr

namespace SyntaxError

/-- The error in words. -/
def message : SyntaxError → String
  | unknownLanguage name => s!"Unknown language: {name}"
  | setupFailed grammar => s!"Parser setup failed for {grammar}"
  | parseFailed grammar bytes => s!"Parse failed for {grammar} fragment of {bytes} bytes"
  | invalidPattern pattern none => "Invalid delimiter pattern " ++ Text.quoted pattern
  | invalidPattern pattern (some reason) =>
    "Invalid delimiter pattern " ++ Text.quoted pattern ++ ": " ++ reason
  | offsetOverflow => "Token offset out of range"

end SyntaxError

/-- The largest offset. -/
def maxOffset : Nat := 0xffffffffffffffff

end Scriptlet
