import Scriptlet.Delimiters
import Scriptlet.Grammar.Basic

/-! # The grammar of whole fragments

A fragment is an opener, a body and a closer. The delimiters become tokens of their own, and the body
goes to an inner grammar. Text without delimiters is all body. -/

namespace Scriptlet

namespace Template

/-- The tag of both delimiters. -/
def delimiterTags : List StyleTag := [{ tag := .metadata }]

/-- The tree of a delimiter, unless it is empty. -/
def delimiterTree (start stop : Nat) : List TokenTree :=
  if start < stop then [.leaf start stop delimiterTags] else []

/-- The tree of the body, moved to where the body starts, unless the body is empty. -/
def bodyTree (inner : Grammar) (start : Nat) : List Char → Except SyntaxError (List TokenTree)
  | [] => .ok []
  | c :: cs => (inner.parse (c :: cs)).map fun t => [t.shift start]

/-- The tree of a fragment: a root around the trees of opener, body and closer. -/
def parse (inner : Grammar) (d : Delimiters) (text : List Char) : Except SyntaxError TokenTree :=
  let parts := d.split text
  let bodyStart := Text.byteLength parts.opener
  let closerStart := bodyStart + Text.byteLength parts.body
  let length := Text.byteLength text
  (bodyTree inner bodyStart parts.body).bind fun body =>
    let tree := TokenTree.branch 0 length []
      (delimiterTree 0 bodyStart ++ body ++ delimiterTree closerStart length)
    if tree.fits then .ok tree else .error .offsetOverflow

end Template

/-- The grammar of fragments whose bodies follow the inner grammar. -/
def Grammar.template (inner : Grammar) (d : Delimiters) : Grammar where
  name := s!"template({inner.name})"
  parse := Template.parse inner d

end Scriptlet
