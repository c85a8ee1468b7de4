import Scriptlet.Grammar.Plain
import Scriptlet.Highlight.Basic
import Scriptlet.Proofs.ByteOffsets
import Scriptlet.Proofs.SegmentWalk

/-!
# Highlighting is exhaustive

The spans of a text tile its characters, whatever tree the grammar hands over (`highlight_exhaustive`).
Offsets inside a character round down to its start. So a segment may lose its characters to the next one
and give no span, but no character is left out: the counter only ever moves from the end of one
segment to the start of the next, which is the same place (`tiling_spans`).
-/

namespace Scriptlet

namespace Span

/-- The offsets of the first character and of the one behind the last. -/
def range (s : Span) : Nat × Nat := (s.start, s.stop)

@[simp] theorem range_mk (start stop : Nat) (cls : Option String) :
    (Span.mk start stop cls).range = (start, stop) := rfl

/-- Spans as a tiling. -/
abbrev Tiles (start stop : Nat) (spans : List Span) : Prop := Tiling start stop (spans.map range)

/-- The characters of the text that the span covers. -/
def slice (text : List Char) (s : Span) : List Char := (text.drop s.start).take (s.stop - s.start)

theorem Tiles.flatMap_slice {text : List Char} {spans : List Span} (h : Tiles 0 text.length spans) :
    spans.flatMap (slice text) = text := by
  have := Tiling.flatMap_slice h text
  rw [List.flatMap_map, List.drop_zero, Nat.sub_zero, List.take_length] at this
  exact this

end Span

namespace Segment
open Text

theorem tiling_spans {counter : CharCounter} {a b : Nat} {segments : List Segment}
    (hc : counter.Placed) (h : Tiles a b segments) :
    Span.Tiles (charsEndingBy counter.text a) (charsEndingBy counter.text b) (spans counter segments) := by
  induction segments generalizing counter a with
  | nil => cases h; exact rfl
  | cons s ss ih =>
    obtain ⟨rfl, hlt, h⟩ := h
    have hfirst := CharCounter.moveTo_chars hc s.start
    have hplaced := CharCounter.placed_moveTo hc s.start
    have hlast := CharCounter.moveTo_chars hplaced s.stop
    have hmono := charsEndingBy_mono counter.text (Nat.le_of_lt hlt)
    have hrest := ih (CharCounter.placed_moveTo hplaced s.stop) h
    simp only [CharCounter.moveTo_text] at hlast hrest
    simp only [spans, hfirst, hlast]
    split
    · exact ⟨rfl, ‹_ < _›, hrest⟩
    · have heq : charsEndingBy counter.text s.start = charsEndingBy counter.text s.stop :=
        Nat.le_antisymm hmono (Nat.le_of_not_lt ‹_›)
      show Span.Tiles (charsEndingBy counter.text s.start) _ _
      rw [heq]; exact hrest

end Segment

theorem tiling_spansOf (styles : StyleTable) (text : List Char) (t : TokenTree) :
    Span.Tiles 0 text.length (spansOf styles text t) := by
  obtain ⟨start, stop, hl, h⟩ := Segment.tiling_ofTree styles (Text.byteLength text) t
  have hruns := Segment.tiling_runs (Segment.tiling_cover hl h)
  have := Segment.tiling_spans (Text.CharCounter.placed_start text) hruns
  simpa [spansOf] using this

theorem spansOf_nil (styles : StyleTable) (t : TokenTree) : spansOf styles [] t = [] := by
  have := (tiling_spansOf styles [] t).eq_nil
  simpa using this

/-- What highlighting gives for a tree of the grammar. The grammar is not asked about empty text, for
which there are no spans anyway. -/
theorem highlight_of_parse {g : Grammar} {text : List Char} {t : TokenTree} (styles : StyleTable)
    (h : g.parse text = .ok t) : (highlight g styles text).1 = .ok (spansOf styles text t) := by
  cases text with
  | nil => simp [highlight, spansOf_nil]
  | cons c cs => simp [highlight, h]

/-- Highlighting succeeds on every tree that a grammar may give: the walk over it ends without a failing
turn, the spans follow each other from the first character of the text to its last with none
empty, and put together they are the text. Empty text has no spans. -/
theorem highlight_exhaustive (g : Grammar) (styles : StyleTable) (text : List Char) (t : TokenTree)
    (h : g.parse text = .ok t) :
    Segment.WalkOf styles (Text.byteLength text) t (Segment.ofTree styles (Text.byteLength text) t) ∧
      (∃ spans, (highlight g styles text).1 = .ok spans ∧ Span.Tiles 0 text.length spans ∧
        spans.flatMap (Span.slice text) = text) ∧
      (highlight g styles []).1 = .ok [] := by
  have htiles := tiling_spansOf styles text t
  exact ⟨Segment.walkOf_ofTree styles _ t,
    ⟨_, highlight_of_parse styles h, htiles, htiles.flatMap_slice⟩, rfl⟩

/-- A tree whose ends point backwards and out of the array, with ranges that are inverted, out of
bounds or inside a character. -/
def twistedTree : TokenTree :=
  ⟨#[⟨0, 9, [], 7⟩, ⟨4, 1, [{ tag := .keyword }], 9⟩, ⟨1, 2, [{ tag := .number }], 0⟩]⟩

theorem highlight_exhaustive_twisted :
    (Grammar.fixed twistedTree).parse ['é', 'x'] = .ok twistedTree ∧
      Segment.WalkOf .standard 3 twistedTree (Segment.ofTree .standard 3 twistedTree) ∧
      (∃ spans, (highlight (.fixed twistedTree) .standard ['é', 'x']).1 = .ok spans ∧
        Span.Tiles 0 2 spans ∧ spans.flatMap (Span.slice ['é', 'x']) = ['é', 'x']) ∧
      (highlight (.fixed twistedTree) .standard []).1 = .ok [] :=
  ⟨rfl, highlight_exhaustive (.fixed twistedTree) .standard ['é', 'x'] twistedTree rfl⟩

end Scriptlet
