import Scriptlet.Decoration.Basic
import Scriptlet.Delimiters
import Scriptlet.FileError
import Scriptlet.Grammar.Language

/-! # Settings -/

namespace Scriptlet

/-- The texts of the delimiter patterns. -/
structure DelimiterSettings where
  opener : String := Delimiters.standardOpen
  closer : String := Delimiters.standardClose
  deriving DecidableEq, Repr

/-- The delimiters the settings stand for. -/
def DelimiterSettings.compile (s : DelimiterSettings) : Except SyntaxError Delimiters :=
  Delimiters.ofTexts s.opener s.closer

/-- The attributes of decorations where no others are given. -/
def DecorationSettings.standardAttributes : Attributes :=
  ⟨[("data-templater-code", ""), ("spellcheck", "false")], by decide⟩

/-- What region decorations look like. -/
structure DecorationSettings where
  /-- The class of every line of a block region. -/
  blockClass : String := "HyperMD-codeblock HyperMD-codeblock-bg"
  /-- The class of an inline region. -/
  inlineClass : String := "cm-inline-code"
  /-- The attributes of both. -/
  attributes : Attributes := DecorationSettings.standardAttributes
  deriving DecidableEq, Repr

/-- How fragments are highlighted. -/
structure HighlightSettings where
  /-- The language of the bodies. -/
  language : String := JavaScript.name
  /-- Spans are kept for fragments that did not change. -/
  memoize : Bool := false
  deriving DecidableEq, Repr

/-- All settings. -/
structure Settings where
  delimiters : DelimiterSettings := {}
  decorations : DecorationSettings := {}
  highlight : HighlightSettings := {}
  deriving DecidableEq, Repr

/-- Why settings could not be read or written. -/
inductive SettingsError where
  /-- There is no place for settings files. -/
  | noFolder
  | file (e : FileError)
  /-- The file is no settings document. -/
  | malformed
  deriving DecidableEq, Repr

/-- The error in words. -/
def SettingsError.message : SettingsError → String
  | noFolder => "Config directory not found"
  | file e => "IO error: " ++ e.message
  | malformed => "Parse error"

end Scriptlet
