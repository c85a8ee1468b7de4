import Scriptlet.Grammar.Basic
import Scriptlet.Grammar.SyntaxCursor
import Scriptlet.Text.Utf8

/-! # JavaScript

The concrete tree of a JavaScript text becomes a tree of tokens: nodes that cover no text go with all
that is inside them, and every other node is tagged by its kind, its parent and its field. -/

namespace Scriptlet

namespace JavaScript

/-- The name of the language. -/
def name : String := "javascript"

/-! ### Tags -/

/-- Kinds of literals: pieces of text in them are part of the literal. -/
def literalKinds : List String := ["string", "template_string", "regex", "jsx_text"]

/-- Kinds of functions that bind their name. -/
def functionKinds : List String :=
  ["function_declaration", "function_expression", "function", "generator_function_declaration",
    "generator_function"]

/-- Kinds whose identifiers are all bound there. -/
def bindingKinds : List String :=
  ["formal_parameters", "rest_pattern", "array_pattern", "import_specifier", "namespace_import",
    "import_clause"]

/-- Kinds that bind the identifier in a certain field. -/
def bindingFields : List (String × String) :=
  [("variable_declarator", "name"), ("arrow_function", "parameter"), ("assignment_pattern", "left"),
    ("catch_clause", "parameter")]

/-- Kinds that name a property in a certain field. -/
def propertyFields : List (String × String) :=
  [("pair", "key"), ("method_definition", "name"), ("field_definition", "property")]

/-- The tag of an identifier. -/
def identifierTag (parent : String) (field : Option String) : StyleTag :=
  let use : StyleTag := { tag := .variableName }
  if functionKinds.contains parent && field == some "name" then
    (use.plus .definition).plus .function
  else if ["class_declaration", "class"].contains parent && field == some "name" then
    { tag := .className, modifiers := .definition }
  else if bindingKinds.contains parent || bindingFields.any (fun b => b.1 == parent && field == some b.2) then
    use.plus .definition
  else if parent == "call_expression" && field == some "function" then use.plus .function
  else use

/-- The tag of the name of a property. -/
def propertyTag (parent : String) (field : Option String) : StyleTag :=
  if propertyFields.any (fun b => b.1 == parent && field == some b.2) then
    { tag := .propertyName, modifiers := .definition }
  else { tag := .propertyName }

/-- Words and signs with a tag of their own. -/
def signs : List (Tag × List String) := [
  (.controlKeyword, ["if", "else", "for", "while", "do", "switch", "case", "default", "break",
    "continue", "return", "throw", "try", "catch", "finally"]),
  (.definitionKeyword, ["const", "let", "var", "using", "function", "class", "extends"]),
  (.moduleKeyword, ["import", "export", "from"]),
  (.operatorKeyword, ["in", "of", "await", "yield", "void", "typeof", "delete", "instanceof"]),
  (.keyword, ["with", "debugger", "as", "new"]),
  (.modifier, ["async", "static", "get", "set"]),
  (.separator, [";", ","]),
  (.paren, ["(", ")"]),
  (.squareBracket, ["[", "]"]),
  (.brace, ["\x7b", "\x7d", "$\x7b"]),
  (.punctuation, [":"]),
  (.derefOperator, [".", "?."]),
  (.definitionOperator, ["="]),
  (.updateOperator, ["++", "--", "+=", "-=", "*=", "/=", "%=", "**=", "&&=", "||=", "??=", "<<=",
    ">>=", ">>>=", "&=", "|=", "^="]),
  (.compareOperator, ["==", "===", "!=", "!==", "<", ">", "<=", ">="]),
  (.logicOperator, ["&&", "||", "??", "!"]),
  (.arithmeticOperator, ["+", "-", "*", "/", "%", "**"]),
  (.controlOperator, ["?"])]

/-- An ASCII character that is no letter, digit, blank or control. -/
def isPunctuation (c : Char) : Bool :=
  0x20 < c.toNat && c.toNat < 0x7F && !c.isAlphanum

/-- The tag of a piece of text that stands for itself: other words of small letters are keywords, and
other signs operators. -/
def signTag (text : String) : Option StyleTag :=
  if text == "=>" then some { tag := .punctuation, modifiers := .function }
  else
    match signs.find? fun row => row.2.contains text with
    | some row => some { tag := row.1 }
    | none =>
      let cs := text.toList
      if cs.isEmpty then none
      else if cs.all Char.isLower then some { tag := .keyword }
      else if cs.all isPunctuation then some { tag := .operator }
      else none

/-- The text between two byte offsets, if both are between characters and in order. -/
def textBetween? (text : List Char) (start stop : Nat) : Option (List Char) := do
  let (_, rest) ← Text.splitAtByte? text start
  if stop < start then none
  else
    let (inside, _) ← Text.splitAtByte? rest (stop - start)
    some inside

/-- The tag of a comment that covers the range. -/
def commentTag (text : List Char) (start stop : Nat) : StyleTag :=
  match textBetween? text start stop with
  | some ('/' :: '/' :: _) => { tag := .lineComment }
  | _ => { tag := .blockComment }

/-- Tags that depend on the kind alone. -/
def kindTags : List (String × StyleTag) := [
  ("string", { tag := .string }),
  ("template_string", { tag := .string, modifiers := .special }),
  ("escape_sequence", { tag := .escape }),
  ("regex", { tag := .regexp }),
  ("number", { tag := .number }),
  ("true", { tag := .bool }),
  ("false", { tag := .bool }),
  ("null", { tag := .null }),
  ("undefined", { tag := .null }),
  ("this", { tag := .selfKeyword }),
  ("super", { tag := .selfKeyword }),
  ("hash_bang_line", { tag := .metadata }),
  ("statement_identifier", { tag := .labelName }),
  ("shorthand_property_identifier", { tag := .propertyName }),
  ("shorthand_property_identifier_pattern", { tag := .variableName, modifiers := .definition }),
  ("private_property_identifier", { tag := .propertyName, modifiers := .special })]

/-- The tag of a node without a fault, in a parent of the given kind. -/
def soundTag (n : NodeInfo) (parent : Option String) (text : List Char) : Option StyleTag :=
  if n.kind == "comment" || n.kind == "html_comment" then some (commentTag text n.start n.stop)
  else if n.kind == "identifier" then some (identifierTag (parent.getD "") n.field)
  else if n.kind == "property_identifier" then some (propertyTag (parent.getD "") n.field)
  else
    match kindTags.find? fun row => row.1 == n.kind with
    | some row => some row.2
    | none =>
      if n.named then none
      else if literalKinds.contains (parent.getD "") then none
      else signTag n.kind

/-- The tag of a node. A node that should have been there has none; one the parser could make nothing
of is invalid if nothing is inside it. -/
def tag (n : NodeInfo) (childless : Bool) (parent : Option String) (text : List Char) :
    Option StyleTag :=
  match n.fault with
  | some .missing => none
  | some .error => if childless then some { tag := .invalid } else none
  | none => soundTag n parent text

/-! ### Trees -/

/-- A tree under construction: its tokens, and those still open by index and kind, innermost first. -/
structure Draft where
  tokens : TokenTree
  ancestors : List (Nat × String)

namespace Draft

/-- Closes the innermost open token. -/
def closeLast : Draft → Draft
  | ⟨t, []⟩ => ⟨t, []⟩
  | ⟨t, (i, _) :: ancestors⟩ => ⟨t.close i, ancestors⟩

/-- Goes on behind a node: to its next sibling, or to that of the nearest node around it that has one. On
the way up the tokens of the nodes that end are closed. -/
def leave (d : Draft) (c : SyntaxCursor) : Draft × Option SyntaxCursor :=
  match c.nextSibling? with
  | some next => (d, some next)
  | none =>
    match _h : c.parent? with
    | some parent => d.closeLast.leave parent
    | none => (d, none)
termination_by c.around.length
decreasing_by exact (SyntaxCursor.behind_parent _h).2

/-- Adds the token of a node and goes on inside it, or behind it if nothing is inside. A node that covers no
text is left out with all that is inside it, unless it is the root. -/
def visit (text : List Char) : Draft → SyntaxCursor → Draft × Option SyntaxCursor
  | ⟨t, ancestors⟩, c =>
    if ancestors.isEmpty || !c.node.info.isEmpty then
      let i := t.size
      let tags := tag c.node.info c.node.children.isEmpty (ancestors.head?.map (·.2)) text
      let opened := t.startNode c.node.info.start c.node.info.stop tags.toList
      match c.firstChild? with
      | some child => (⟨opened, (i, c.node.info.kind) :: ancestors⟩, some child)
      | none => leave ⟨opened.close i, ancestors⟩ c
    else leave ⟨t, ancestors⟩ c

section
variable {text : List Char} {d d' : Draft} {c next : SyntaxCursor}

theorem remaining_leave (h : d.leave c = (d', some next)) : next.remaining ≤ c.behind := by
  fun_induction leave d c with
  | case1 d c next' hnext =>
    cases h
    exact SyntaxCursor.remaining_nextSibling hnext
  | case2 d c hnext parent hparent ih => exact Nat.le_trans (ih h) (SyntaxCursor.behind_parent hparent).1
  | case3 => cases h

theorem remaining_visit (h : d.visit text c = (d', some next)) : next.remaining < c.remaining := by
  unfold visit at h
  split at h
  split at h
  · split at h
    · rename_i child hchild
      cases h
      exact SyntaxCursor.remaining_firstChild hchild
    · exact Nat.lt_of_le_of_lt (remaining_leave h) c.behind_lt_remaining
  · exact Nat.lt_of_le_of_lt (remaining_leave h) c.behind_lt_remaining

end

/-- The tokens when all nodes from the cursor on have been visited. -/
def walk (text : List Char) (d : Draft) (c : SyntaxCursor) : TokenTree :=
  match _h : d.visit text c with
  | (d, some next) => walk text d next
  | (d, none) => d.tokens
termination_by c.remaining
decreasing_by exact remaining_visit _h

end Draft

/-- The tree of tokens of a text with the given concrete tree. Its root covers the whole text. -/
def tokenTree (text : List Char) (root : SyntaxNode) : TokenTree :=
  (Draft.walk text ⟨.empty, []⟩ (.root root)).modifyRoot fun n =>
    { n with start := 0, stop := Text.byteLength text }

end JavaScript

/-- The JavaScript grammar over a parser. A text the parser gives no tree for is an error. -/
def Grammar.javaScript (parser : List Char → Option SyntaxNode) : Grammar where
  name := JavaScript.name
  parse text :=
    match parser text with
    | some root => .ok (JavaScript.tokenTree text root)
    | none => .error (.parseFailed JavaScript.name (Text.byteLength text))

end Scriptlet
