import Scriptlet.Event
import Scriptlet.Grammar.Basic
import Scriptlet.Highlight.Span

/-! # Highlighting a fragment -/

namespace Scriptlet

/-- The spans of a text under a grammar, and what happened. The grammar is not asked about empty
text. -/
def highlight (g : Grammar) (styles : StyleTable) (text : List Char) :
    Except SyntaxError (List Span) × List Event :=
  match text with
  | [] => (.ok [], [])
  | _ :: _ =>
    match g.parse text with
    | .error e => (.error e, [])
    | .ok tree => (.ok (spansOf styles text tree), [.parsed g.name (Text.byteLength text) tree.size])

end Scriptlet
