import Scriptlet.Settings.Basic
import Scriptlet.Toml.Reader
import Scriptlet.Toml.Writer

/-! # Settings files

Settings are kept in a TOML document. `ofText?` overlays what a document says on the defaults, field
by field; `toText` writes all fields. -/

namespace Scriptlet

open Toml (Value)

/-! ### Reading -/

/-- A string. -/
def Toml.Value.string? : Value → Option String
  | .string s => some s
  | _ => none

/-- A truth value. -/
def Toml.Value.boolean? : Value → Option Bool
  | .boolean b => some b
  | _ => none

/-- The key that a date or time is given under where a table is expected. -/
def Toml.datetimeKey : String := "$__toml_private_datetime"

/-- The fields of a group of settings: those of a table, or the items of an array in the order of
`names`. A date or time is a table with one key. -/
def Toml.Value.fields? (names : List String) : Value → Option (List (String × Value))
  | .table entries => some entries
  | .array items => some (names.zip items)
  | .datetime d => some [(Toml.datetimeKey, .string d.render)]
  | _ => none

/-- The entries of a table. A date or time is a table with one key. -/
def Toml.Value.entries? : Value → Option (List (String × Value))
  | .table entries => some entries
  | .datetime d => some [(Toml.datetimeKey, .string d.render)]
  | _ => none

namespace Settings

/-- The field read from its value if it is given, and the default if it is not. -/
def field {α : Type} (fields : List (String × Value)) (name : String) (default : α)
    (read : Value → Option α) : Option α :=
  match fields.lookup name with
  | none => some default
  | some v => read v

/-- Attributes from a table of strings. -/
def readAttributes (v : Value) : Option Attributes := do
  let entries ← v.entries?
  let pairs ← entries.mapM fun (k, v) => v.string?.map fun s => (k, s)
  some (Attributes.ofList pairs)

/-- The delimiter patterns. -/
def readDelimiters (v : Value) : Option DelimiterSettings := do
  let fields ← v.fields? ["open", "close"]
  let opener ← field fields "open" Delimiters.standardOpen Value.string?
  let closer ← field fields "close" Delimiters.standardClose Value.string?
  some { opener, closer }

/-- What region decorations look like. -/
def readDecorations (v : Value) : Option DecorationSettings := do
  let d : DecorationSettings := {}
  let fields ← v.fields? ["code_block_class", "inline_code_class", "attributes"]
  let blockClass ← field fields "code_block_class" d.blockClass Value.string?
  let inlineClass ← field fields "inline_code_class" d.inlineClass Value.string?
  let attributes ← field fields "attributes" d.attributes readAttributes
  some { blockClass, inlineClass, attributes }

/-- How fragments are highlighted. -/
def readHighlight (v : Value) : Option HighlightSettings := do
  let d : HighlightSettings := {}
  let fields ← v.fields? ["language", "memoize_regions"]
  let language ← field fields "language" d.language Value.string?
  let memoize ← field fields "memoize_regions" d.memoize Value.boolean?
  some { language, memoize }

/-- The settings of the entries of a document. Keys that name no setting do not count. -/
def ofEntries? (entries : List (String × Value)) : Option Settings := do
  let delimiters ← field entries "delimiters" {} readDelimiters
  let decorations ← field entries "decorations" {} readDecorations
  let highlight ← field entries "highlight" {} readHighlight
  some { delimiters, decorations, highlight }

/-- The settings in a text, or that it holds none. -/
def ofText (text : List Char) : Except SettingsError Settings :=
  match (Toml.read? text).bind ofEntries? with
  | some s => .ok s
  | none => .error .malformed

/-! ### Writing -/

/-- The sections of the document with all settings. -/
def sections (s : Settings) : List (List Char) :=
  [Toml.Writer.tableText "delimiters"
      [Toml.Writer.stringLine "open" s.delimiters.opener,
        Toml.Writer.stringLine "close" s.delimiters.closer],
    Toml.Writer.tableText "decorations"
      [Toml.Writer.stringLine "code_block_class" s.decorations.blockClass,
        Toml.Writer.stringLine "inline_code_class" s.decorations.inlineClass],
    Toml.Writer.tableText "decorations.attributes"
      (s.decorations.attributes.map fun a => Toml.Writer.stringLine a.1 a.2),
    Toml.Writer.tableText "highlight"
      [Toml.Writer.stringLine "language" s.highlight.language,
        Toml.Writer.boolLine "memoize_regions" s.highlight.memoize]]

/-- The document with all settings: its sections with an empty line between. -/
def toText (s : Settings) : List Char :=
  ['\n'].intercalate s.sections

end Settings

end Scriptlet
