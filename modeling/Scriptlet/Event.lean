import Scriptlet.Document
import Scriptlet.Settings.Basic

/-! # Events

What happens during a run is told by a list of events. Each has a level, a message and fields. -/

namespace Scriptlet

/-- How much an event matters. -/
inductive Level where
  | trace
  | debug
  | info
  | warn
  deriving DecidableEq, Repr

/-- The name of the level. -/
def Level.name : Level → String
  | trace => "TRACE"
  | debug => "DEBUG"
  | info => "INFO"
  | warn => "WARN"

/-- Something that happened. -/
inductive Event where
  /-- An opener was never closed. -/
  | unterminated (start : Nat)
  /-- A grammar gave a tree for a fragment. -/
  | parsed (grammar : String) (bytes nodes : Nat)
  /-- A region is not in the document. -/
  | regionSkipped (region : Region) (e : DocumentError)
  /-- The lines of a region could not be found. -/
  | linesNotFound (start : Nat) (e : DocumentError)
  /-- A fragment could not be highlighted. -/
  | unhighlighted (region : Region) (e : SyntaxError)
  /-- A decoration was refused. -/
  | decorationDropped (e : DecorationError)
  /-- The settings could not be read, and the defaults hold. -/
  | settingsIgnored (e : SettingsError)
  /-- A view was set up with a grammar. -/
  | highlightingWith (grammar : String)
  /-- All decorations were built. -/
  | rebuilt (regions lines marks unhighlighted : Nat)
  deriving DecidableEq, Repr

/-- The value of a field of an event. -/
inductive FieldValue where
  | number (n : Nat)
  | text (s : String)
  deriving DecidableEq, Repr

namespace Event

/-- How much the event matters. -/
def level : Event → Level
  | unterminated .. | parsed .. => .trace
  | rebuilt .. => .debug
  | highlightingWith .. => .info
  | regionSkipped .. | linesNotFound .. | unhighlighted .. | decorationDropped ..
  | settingsIgnored .. => .warn

/-- The event in words. -/
def message : Event → String
  | unterminated _ => "dropping unterminated fragment"
  | parsed .. => "parsed fragment"
  | regionSkipped _ e => "Skipping region: " ++ e.message
  | linesNotFound _ e => "Cannot locate region lines: " ++ e.message
  | unhighlighted _ e => "Highlight unavailable: " ++ e.message
  | decorationDropped e => "Dropping decoration: " ++ e.message
  | settingsIgnored e => "Falling back to default config: " ++ e.message
  | highlightingWith grammar => "Highlighting fragments with " ++ grammar
  | rebuilt .. => "Rebuilt decorations"

/-- The fields of the event. -/
def fields : Event → List (String × FieldValue)
  | unterminated start => [("start", .number start)]
  | parsed grammar bytes nodes =>
    [("grammar", .text grammar), ("bytes", .number bytes), ("nodes", .number nodes)]
  | regionSkipped r _ | unhighlighted r _ => [("start", .number r.start), ("end", .number r.stop)]
  | linesNotFound start _ => [("start", .number start)]
  | rebuilt regions lines marks without =>
    [("regions", .number regions), ("lines", .number lines), ("marks", .number marks),
      ("unhighlighted", .number without)]
  | decorationDropped _ | settingsIgnored _ | highlightingWith _ => []

/-- A token was beyond the largest offset. -/
def isOverflow : Event → Bool
  | unhighlighted _ .offsetOverflow => true
  | _ => false

end Event

end Scriptlet
