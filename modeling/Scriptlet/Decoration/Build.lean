import Scriptlet.Event
import Scriptlet.Highlight.Span

/-! # Building decorations

The regions of a document and the spans of their fragments become decorations. Their order is that of
the regions and of the spans in each: it is never sorted, and what is out of order is dropped. -/

namespace Scriptlet

/-- Gives the spans of a fragment and tells what happened. It may keep a state between fragments. -/
abbrev Highlighter (σ : Type) := List Char → σ → (Except SyntaxError (List Span) × List Event) × σ

namespace Build

/-- What has been built. -/
structure State where
  lines : SetBuilder LineMark := {}
  marks : SetBuilder Mark := {}
  unhighlighted : Array Region := #[]
  /-- The start of the last line a decoration was made for. -/
  lastLine : Option Nat := none
  events : Array Event := #[]

namespace State

/-- Tells what happened. -/
def tell (s : State) (e : Event) : State :=
  { s with events := s.events.push e }

/-- Takes in a mark, or tells that it was dropped. -/
def addMark (s : State) (m : Except DecorationError Mark) : State :=
  match m.bind s.marks.add with
  | .ok marks => { s with marks }
  | .error e => s.tell (.decorationDropped e)

/-- Takes in a line decoration, or tells that it was dropped. -/
def addLine (s : State) (l : LineMark) : State :=
  match s.lines.add l with
  | .ok lines => { s with lines }
  | .error e => s.tell (.decorationDropped e)

end State

/-- Decorates the line that starts at the offset, unless it is the one decorated last. -/
def markLine (settings : DecorationSettings) (s : State) (start : Nat) : State :=
  if s.lastLine = some start then s
  else
    { s with lastLine := some start }.addLine ⟨start, settings.blockClass, settings.attributes⟩

/-- Decorates every line that the region touches. -/
def markLines (settings : DecorationSettings) (doc : Document) (r : Region) (s : State) : State :=
  match doc.lineAt r.start, doc.lineAt (max (r.stop - 1) r.start) with
  | .ok first, .ok last =>
    ((doc.lineStarts.drop first).take (last + 1 - first)).foldl (markLine settings) s
  | .error e, _ => s.tell (.linesNotFound r.start e)
  | .ok _, .error e => s.tell (.linesNotFound r.start e)

/-- Decorates the region as a whole. -/
def markRegion (settings : DecorationSettings) (doc : Document) (r : Region) (s : State) : State :=
  match r.kind with
  | .block => markLines settings doc r s
  | .inline =>
    s.addMark ((Mark.new r.start r.stop settings.inlineClass).map (·.withAttributes settings.attributes))

/-- Decorates the range of a span, if it has a class, in the region that starts at the offset. -/
def markSpan (start : Nat) (s : State) (span : Span) : State :=
  match span.cls with
  | none => s
  | some cls => s.addMark (Mark.new (start + span.start) (start + span.stop) cls)

/-- Decorates a region and what is in it. -/
def region {σ : Type} (settings : DecorationSettings) (doc : Document) (highlighter : Highlighter σ)
    (s : State) (st : σ) (r : Region) : State × σ :=
  match doc.slice r.start r.stop with
  | .error e => (s.tell (.regionSkipped r e), st)
  | .ok fragment =>
    let s := markRegion settings doc r s
    let ((spans, events), st) := highlighter fragment st
    let s := { s with events := s.events ++ events }
    match spans with
    | .ok spans => (spans.foldl (markSpan r.start) s, st)
    | .error e =>
      ({ s with unhighlighted := s.unhighlighted.push r }.tell (.unhighlighted r e), st)

/-- Decorates the regions in order. -/
def regions {σ : Type} (settings : DecorationSettings) (doc : Document) (highlighter : Highlighter σ)
    (s : State) (st : σ) : List Region → State × σ
  | [] => (s, st)
  | r :: rs =>
    let (s, st) := region settings doc highlighter s st r
    regions settings doc highlighter s st rs

end Build

/-- The decorations of a document with the given regions, what happened, and the state the
highlighter was left in. -/
def decorate {σ : Type} (settings : DecorationSettings) (doc : Document) (rs : List Region)
    (highlighter : Highlighter σ) (st : σ) : Decorations × List Event × σ :=
  let (s, st) := Build.regions settings doc highlighter {} st rs
  (⟨s.lines.items.toList, s.marks.items.toList, s.unhighlighted.toList⟩, s.events.toList, st)

end Scriptlet
