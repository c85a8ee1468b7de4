import Scriptlet.Keyed
import Scriptlet.Style.StyleTag

/-! # Style tables

A table gives display classes to tags. A tag without a rule of its own falls back to fewer modifiers
and then to its ancestors (`classFor`); the classes of several tags are joined, each once
(`resolve`). -/

namespace Scriptlet

/-- Rules from tags to class names, at most one for a tag. -/
structure StyleTable where
  rules : List (StyleTag × String)
  distinct : (rules.map (·.1)).Nodup

namespace StyleTable

/-- The table without rules. -/
def empty : StyleTable := ⟨[], .nil⟩

/-- Adds a rule, or replaces the one for the same tag. -/
def insert (s : StyleTable) (t : StyleTag) (cls : String) : StyleTable where
  rules := Keyed.set (·.1) (t, cls) s.rules
  distinct := Keyed.nodup_set _ _ s.distinct

/-- The number of rules. -/
def size (s : StyleTable) : Nat := s.rules.length

/-- No rules at all. -/
def isEmpty (s : StyleTable) : Bool := s.rules.isEmpty

/-- The class a rule gives to exactly this tag. -/
def rule? (s : StyleTable) (t : StyleTag) : Option String :=
  (Keyed.find? (·.1) t s.rules).map (·.2)

theorem rule?_insert (s : StyleTable) (t : StyleTag) (cls : String) (u : StyleTag) :
    (s.insert t cls).rule? u = if t = u then some cls else s.rule? u := by
  rw [rule?, insert, Keyed.find?_set]
  split <;> rfl

/-- A tag has the class that its one rule gives. -/
theorem rule?_eq_some {s : StyleTable} {t : StyleTag} {cls : String} :
    s.rule? t = some cls ↔ (t, cls) ∈ s.rules := by
  rw [rule?, Option.map_eq_some_iff]
  simp only [Keyed.find?_eq_some s.distinct]
  constructor
  · rintro ⟨⟨_, _⟩, ⟨hr, rfl⟩, rfl⟩
    exact hr
  · exact fun hr => ⟨(t, cls), ⟨hr, rfl⟩, rfl⟩

/-- The class of a tag: of its ancestors the nearest with a rule for some of the modifiers, and of
those rules the one with most. -/
def classFor (s : StyleTable) (t : StyleTag) : Option String :=
  t.tag.ancestry.findSome? fun base => t.modifiers.subsets.findSome? fun m => s.rule? ⟨base, m⟩

/-! ### Joining classes -/

/-- The pieces of a text between its spaces. -/
def pieces : List Char → List (List Char)
  | [] => [[]]
  | c :: cs =>
    if c == ' ' then [] :: pieces cs
    else
      match pieces cs with
      | p :: ps => (c :: p) :: ps
      | [] => [[c]]

/-- Appends a piece to pieces joined by spaces, unless it is among them. -/
def joinPiece (joined piece : List Char) : List Char :=
  if (pieces joined).contains piece then joined
  else if joined.isEmpty then piece
  else joined ++ ' ' :: piece

/-- The classes of all the tags, each piece once, joined by spaces; nothing if there are none. -/
def resolve (s : StyleTable) (tags : List StyleTag) : Option String :=
  let classes := (tags.filterMap s.classFor).flatMap fun cls => pieces cls.toList
  match classes.foldl joinPiece [] with
  | [] => none
  | joined => some (String.ofList joined)

/-! ### The standard table -/

/-- The rules of the standard table in the order they are added. -/
def standardRules : List (StyleTag × String) :=
  let v : StyleTag := { tag := .variableName }
  [({ tag := .link }, "cm-link"),
    ({ tag := .heading }, "cm-heading"),
    ({ tag := .emphasis }, "cm-emphasis"),
    ({ tag := .strong }, "cm-strong"),
    ({ tag := .keyword }, "cm-keyword"),
    ({ tag := .atom }, "cm-atom"),
    ({ tag := .bool }, "cm-bool"),
    ({ tag := .url }, "cm-url"),
    ({ tag := .labelName }, "cm-labelName"),
    ({ tag := .inserted }, "cm-inserted"),
    ({ tag := .deleted }, "cm-deleted"),
    ({ tag := .literal }, "cm-literal"),
    ({ tag := .string }, "cm-string"),
    ({ tag := .number }, "cm-number"),
    ({ tag := .regexp }, "cm-string-2"),
    ({ tag := .escape }, "cm-string-2"),
    ({ tag := .string, modifiers := .special }, "cm-string-2"),
    (v, "cm-variable"),
    (v.plus .localScope, "cm-variable cm-local"),
    (v.plus .definition, "cm-variable cm-def"),
    (v.plus .special, "cm-variable"),
    ({ tag := .typeName }, "cm-typeName"),
    ({ tag := .nameSpace }, "cm-namespace"),
    ({ tag := .macroName }, "cm-macroName"),
    ({ tag := .propertyName, modifiers := .definition }, "cm-propertyName"),
    ({ tag := .operator }, "cm-operator"),
    ({ tag := .comment }, "cm-comment"),
    ({ tag := .metadata }, "cm-meta"),
    ({ tag := .invalid }, "cm-invalid"),
    ({ tag := .punctuation }, "cm-punctuation"),
    ({ tag := .modifier }, "cm-modifier"),
    ((v.plus .definition).plus .function, "cm-function cm-def"),
    ({ tag := .className, modifiers := .definition }, "cm-class cm-def"),
    ({ tag := .operatorKeyword }, "cm-operator")]

/-- The classes that note editors give to code. -/
def standard : StyleTable :=
  standardRules.foldl (fun s r => s.insert r.1 r.2) empty

end StyleTable

end Scriptlet
