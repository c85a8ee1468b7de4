/-! # Tags

A tag says what a token means. Tags form a small closed hierarchy: one without a style of its own
takes that of its parent. No chain of parents is longer than two (`parent_chain`). -/

namespace Scriptlet

/-- What a token means. -/
inductive Tag where
  | comment
  | lineComment
  | blockComment
  | docComment
  | name
  | variableName
  | typeName
  | tagName
  | propertyName
  | attributeName
  | className
  | labelName
  | nameSpace
  | macroName
  | literal
  | string
  | docString
  | character
  | number
  | integer
  | float
  | bool
  | regexp
  | escape
  | url
  | keyword
  | selfKeyword
  | null
  | atom
  | modifier
  | operatorKeyword
  | controlKeyword
  | definitionKeyword
  | moduleKeyword
  | operator
  | derefOperator
  | arithmeticOperator
  | logicOperator
  | compareOperator
  | updateOperator
  | definitionOperator
  | controlOperator
  | punctuation
  | separator
  | bracket
  | paren
  | brace
  | squareBracket
  | content
  | heading
  | emphasis
  | strong
  | link
  | inserted
  | deleted
  | changed
  | invalid
  | metadata
  | documentMetadata
  | annotated
  deriving DecidableEq, Repr

namespace Tag

/-- The tag whose style stands in for a missing one. -/
def parent : Tag → Option Tag
  | lineComment | blockComment | docComment => some comment
  | variableName | typeName | propertyName | className | labelName | nameSpace | macroName =>
    some name
  | tagName => some typeName
  | attributeName => some propertyName
  | string | number | bool | regexp | escape | url => some literal
  | docString | character => some string
  | integer | float => some number
  | selfKeyword | null | atom | modifier | operatorKeyword | controlKeyword | definitionKeyword
  | moduleKeyword => some keyword
  | derefOperator | arithmeticOperator | logicOperator | compareOperator | updateOperator
  | definitionOperator | controlOperator => some operator
  | separator | bracket => some punctuation
  | paren | brace | squareBracket => some bracket
  | heading | emphasis | strong | link => some content
  | documentMetadata | annotated => some metadata
  | comment | name | literal | keyword | operator | punctuation | content | inserted | deleted
  | changed | invalid | metadata => none

/-- The name of the tag, as written in rules and token lists. -/
def spelling : Tag → String
  | comment => "comment"
  | lineComment => "lineComment"
  | blockComment => "blockComment"
  | docComment => "docComment"
  | name => "name"
  | variableName => "variableName"
  | typeName => "typeName"
  | tagName => "tagName"
  | propertyName => "propertyName"
  | attributeName => "attributeName"
  | className => "className"
  | labelName => "labelName"
  | nameSpace => "namespace"
  | macroName => "macroName"
  | literal => "literal"
  | string => "string"
  | docString => "docString"
  | character => "character"
  | number => "number"
  | integer => "integer"
  | float => "float"
  | bool => "bool"
  | regexp => "regexp"
  | escape => "escape"
  | url => "url"
  | keyword => "keyword"
  | selfKeyword => "self"
  | null => "null"
  | atom => "atom"
  | modifier => "modifier"
  | operatorKeyword => "operatorKeyword"
  | controlKeyword => "controlKeyword"
  | definitionKeyword => "definitionKeyword"
  | moduleKeyword => "moduleKeyword"
  | operator => "operator"
  | derefOperator => "derefOperator"
  | arithmeticOperator => "arithmeticOperator"
  | logicOperator => "logicOperator"
  | compareOperator => "compareOperator"
  | updateOperator => "updateOperator"
  | definitionOperator => "definitionOperator"
  | controlOperator => "controlOperator"
  | punctuation => "punctuation"
  | separator => "separator"
  | bracket => "bracket"
  | paren => "paren"
  | brace => "brace"
  | squareBracket => "squareBracket"
  | content => "content"
  | heading => "heading"
  | emphasis => "emphasis"
  | strong => "strong"
  | link => "link"
  | inserted => "inserted"
  | deleted => "deleted"
  | changed => "changed"
  | invalid => "invalid"
  | metadata => "meta"
  | documentMetadata => "documentMeta"
  | annotated => "annotation"

/-- All tags. -/
def all : List Tag :=
  [comment, lineComment, blockComment, docComment, name, variableName, typeName, tagName,
    propertyName, attributeName, className, labelName, nameSpace, macroName, literal, string,
    docString, character, number, integer, float, bool, regexp, escape, url, keyword, selfKeyword,
    null, atom, modifier, operatorKeyword, controlKeyword, definitionKeyword, moduleKeyword, operator,
    derefOperator, arithmeticOperator, logicOperator, compareOperator, updateOperator,
    definitionOperator, controlOperator, punctuation, separator, bracket, paren, brace,
    squareBracket, content, heading, emphasis, strong, link, inserted, deleted, changed, invalid,
    metadata, documentMetadata, annotated]

theorem mem_all (t : Tag) : t ∈ all := by
  cases t <;> decide

/-- The tag of that name. -/
def ofSpelling? (s : String) : Option Tag :=
  all.find? fun t => t.spelling == s

/-- The tag and at most `n` of its ancestors, nearest first. -/
def ancestryUpTo : Nat → Tag → List Tag
  | 0, t => [t]
  | n + 1, t =>
    match t.parent with
    | none => [t]
    | some p => t :: ancestryUpTo n p

/-- The tag and all its ancestors, nearest first. -/
def ancestry (t : Tag) : List Tag :=
  ancestryUpTo 2 t

/-- Two steps up there is no further parent. -/
theorem parent_chain (t : Tag) : ((t.parent.bind parent).bind parent) = none := by
  cases t <;> rfl

theorem ancestry_eq (t : Tag) :
    t.ancestry = t :: (match t.parent with | none => [] | some p => p.ancestry) := by
  cases t <;> rfl

end Tag

end Scriptlet
