import Scriptlet.Decoration.Build
import Scriptlet.FragmentCache
import Scriptlet.Grammar.Template
import Scriptlet.Highlight.Basic
import Scriptlet.Scan
import Scriptlet.Settings.Basic

/-! # Views

A view keeps the decorations of one document. They are built anew whenever the document or what is
shown of it changes, and are always those of the document they were last built for. -/

namespace Scriptlet

/-- Whether the decorations are those of the document. -/
inductive ViewState where
  | stale
  | fresh
  deriving DecidableEq, Repr

/-- The name of the state. -/
def ViewState.name : ViewState → String
  | stale => "stale"
  | fresh => "fresh"

/-- What changed since the last update. -/
structure ViewUpdate where
  documentChanged : Bool := false
  viewportChanged : Bool := false
  deriving DecidableEq, Repr

/-- The decorations have to be built anew. -/
def ViewUpdate.needsRebuild (u : ViewUpdate) : Bool :=
  u.documentChanged || u.viewportChanged

/-- Why a view could not be set up. -/
inductive ViewError where
  | setup (e : SyntaxError)
  deriving DecidableEq, Repr

/-- The error in words. -/
def ViewError.message : ViewError → String
  | setup e => "Syntax error: " ++ e.message

/-- A view of a document. -/
structure View where
  delimiters : Delimiters
  grammar : Grammar
  styles : StyleTable
  settings : DecorationSettings
  /-- Present if spans are kept between rebuilds. -/
  cache : Option FragmentCache
  state : ViewState
  decorations : Decorations

namespace View

/-- Highlights fragments, by the cache if there is one. -/
def highlighter (g : Grammar) (styles : StyleTable) : Highlighter (Option FragmentCache) :=
  fun fragment cache =>
    match cache with
    | none => (highlight g styles fragment, none)
    | some c =>
      let ((spans, told), c) := c.get fragment fun _ => highlight g styles fragment
      ((spans, told.getD []), some c)

/-- Tells of an opener that was never closed. -/
def unterminated (found : Scan.Found) : List Event :=
  match found.pending with
  | some p => [.unterminated p.start]
  | none => []

/-- Builds the decorations of the document. -/
def rebuild (v : View) (doc : Document) : View × List Event :=
  let found := scan v.delimiters doc
  let (decorations, events, cache) := decorate v.settings doc found.regions
    (highlighter v.grammar v.styles) (v.cache.map (·.begin))
  let summary := Event.rebuilt found.regions.length decorations.lines.length decorations.marks.length
    decorations.unhighlighted.length
  ({ v with cache := cache.map (·.finish), decorations, state := .fresh },
    unterminated found ++ events ++ [summary])

/-- What the settings come to, before the first decorations are built. -/
def unbuilt (settings : Settings) (delimiters : Delimiters) (grammar : Grammar) : View where
  delimiters := delimiters
  grammar := grammar
  styles := .standard
  settings := settings.decorations
  cache := if settings.highlight.memoize then some {} else none
  state := .stale
  decorations := .empty

/-- A view of the document with these delimiters and this grammar. -/
def setUp (settings : Settings) (delimiters : Delimiters) (grammar : Grammar) (doc : Document) :
    View × List Event :=
  (unbuilt settings delimiters grammar).rebuild doc

/-- A view of the document with a grammar of its own. -/
def new (settings : Settings) (grammar : Grammar) (doc : Document) :
    Except ViewError (View × List Event) :=
  match settings.delimiters.compile with
  | .error e => .error (.setup e)
  | .ok delimiters => .ok (setUp settings delimiters grammar doc)

/-- A view of the document with the language of the settings between the delimiters. -/
def ofSettings (parser : List Char → Option SyntaxNode) (settings : Settings) (doc : Document) :
    Except ViewError (View × List Event) :=
  match Language.grammar parser settings.highlight.language, settings.delimiters.compile with
  | .error e, _ => .error (.setup e)
  | .ok _, .error e => .error (.setup e)
  | .ok inner, .ok delimiters =>
    let grammar := inner.template delimiters
    (new settings grammar doc).map fun (v, events) => (v, .highlightingWith grammar.name :: events)

/-- Takes in a change: whether the decorations were built anew for the document, the view after, and
what happened. -/
def update (v : View) (doc : Document) (u : ViewUpdate) : Bool × View × List Event :=
  if u.needsRebuild then
    let (v, events) := { v with state := ViewState.stale }.rebuild doc
    (true, v, events)
  else (false, v, [])

/-- Hits and misses of the cache, if there is one. -/
def cacheStats (v : View) : Option (Nat × Nat) :=
  v.cache.map fun c => (c.hits, c.misses)

end View

end Scriptlet
