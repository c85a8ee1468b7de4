import Scriptlet.Highlight.Segment
import Scriptlet.Text.CharCounter

/-! # Spans

The segments of a fragment, with what they leave out at both ends, are joined where neighbours have
the same class; the byte ranges so found become spans in characters. The spans of a text follow each
other without a gap from its first character to its last. -/

namespace Scriptlet

/-- A range of characters of a fragment and its class, if it has one. -/
structure Span where
  start : Nat
  stop : Nat
  cls : Option String
  deriving DecidableEq, Repr

namespace Span

/-- The number of characters. -/
def length (s : Span) : Nat := s.stop - s.start

/-- No characters at all. -/
def isEmpty (s : Span) : Bool := s.start == s.stop

end Span

namespace Segment

/-- Puts a segment in front of others, joined with the first if the classes agree. -/
def consRun (s : Segment) : List Segment → List Segment
  | [] => [s]
  | t :: ts => if s.cls = t.cls then ⟨s.start, t.stop, s.cls⟩ :: ts else s :: t :: ts

/-- Joins neighbours of the same class. -/
def runs (segments : List Segment) : List Segment :=
  segments.foldr consRun []

/-- The segments of a text of `length` bytes, filled up at both ends. -/
def cover (length : Nat) : List Segment → List Segment
  | [] => between 0 length none
  | s :: ss =>
    let last := ((s :: ss).getLast (List.cons_ne_nil s ss)).stop
    between 0 s.start none ++ s :: ss ++ between last length none

/-- The spans of segments in order; a segment inside one character has none. -/
def spans (counter : Text.CharCounter) : List Segment → List Span
  | [] => []
  | s :: ss =>
    let first := counter.moveTo s.start
    let last := first.moveTo s.stop
    let later := spans last ss
    if first.chars < last.chars then ⟨first.chars, last.chars, s.cls⟩ :: later else later

end Segment

/-- The spans of a text with the given tree of tokens. -/
def spansOf (styles : StyleTable) (text : List Char) (t : TokenTree) : List Span :=
  let length := Text.byteLength text
  Segment.spans (.start text) (Segment.runs (Segment.cover length (Segment.ofTree styles length t)))

end Scriptlet
