import Scriptlet.Proofs.RunLength
import Scriptlet.Proofs.TokenEncoding

/-!
# What the spans say

Every token has an extent, its range clamped to what its parent and its elder siblings leave. The class of
a character is that of the innermost token around it that has one (`Token.classAt`). If no end of a
token is inside a character, the spans are the runs of these classes (`highlight_runLength`).

Three facts about segments carry this through filling up, joining and counting: they tile the text
(`SegmentTiling`), they end between characters (`Cut`), and each has the class of every character in
it (`Paints`). The first two make each character lie in one segment; so joining loses nothing, and
no segment vanishes in going from bytes to characters.
-/

namespace Scriptlet
open Text (Boundary byteLength byteOffset charsEndingBy)
open Segment (clamp)

namespace Token

/-! ### The class of a character -/

mutual

/-- The tags of the tokens around the bytes from `a` to `b`, outermost first, in a token of the
extent from `start` to `stop`. -/
def around (a b start stop : Nat) : Token → List (List StyleTag)
  | .node _ _ tags children =>
    if start ≤ a ∧ b ≤ stop then tags :: aroundAny a b start stop children else []

/-- The same in the tokens that remain of a parent whose extent ends at `stop`, where the sibling
before them ends at `cursor`. -/
def aroundAny (a b cursor stop : Nat) : List Token → List (List StyleTag)
  | [] => []
  | .node first last tags children :: rest =>
    let start := clamp cursor stop first
    let finish := clamp start stop last
    around a b start finish (.node first last tags children) ++ aroundAny a b finish stop rest

end

/-- The class in effect from byte `a` to byte `b` of a text of `length` bytes: that of the innermost
token around them, or of the nearest around that one that has a class. -/
def classAt (styles : StyleTable) (length a b : Nat) : Token → Option String
  | .node first last tags children =>
    let start := min first length
    (around a b start (clamp start length last) (.node first last tags children)).reverse.findSome?
      styles.resolve

/-- The class of the character of the given number. -/
def classOf (styles : StyleTable) (text : List Char) (t : Token) (i : Nat) : Option String :=
  t.classAt styles (byteLength text) (byteOffset text i) (byteOffset text (i + 1))

/-- The classes of the characters of a text. -/
def classes (styles : StyleTable) (text : List Char) (t : Token) : List (Option String) :=
  (List.range text.length).map (t.classOf styles text)

/-- The offset is no place inside a character: it lies between two, or past the end. -/
def Whole (text : List Char) (n : Nat) : Prop := Boundary text n ∨ byteLength text < n

mutual

/-- No token of the tree starts or ends inside a character. -/
def WholeEnds (text : List Char) : Token → Prop
  | .node start stop _ children => Whole text start ∧ Whole text stop ∧ WholeEndsAll text children

def WholeEndsAll (text : List Char) : List Token → Prop
  | [] => True
  | t :: ts => WholeEnds text t ∧ WholeEndsAll text ts

end

theorem aroundAny_of_lt {a b cursor : Nat} (h : a < cursor) (stop : Nat) (ts : List Token) :
    aroundAny a b cursor stop ts = [] := by
  induction ts generalizing cursor with
  | nil => rfl
  | cons t rest ih =>
    obtain ⟨first, last, tags, children⟩ := t
    have hs := Segment.le_clamp cursor stop first
    have hf := Segment.le_clamp (clamp cursor stop first) stop last
    have hout : ¬(clamp cursor stop first ≤ a ∧ b ≤ clamp (clamp cursor stop first) stop last) := by omega
    simp only [aroundAny, around, if_neg hout, List.nil_append]
    exact ih (by omega)

theorem classAt_outside {styles : StyleTable} {length a b first last : Nat} {tags : List StyleTag}
    {children : List Token}
    (h : ¬(min first length ≤ a ∧ b ≤ clamp (min first length) length last)) :
    (Token.node first last tags children).classAt styles length a b = none := by
  simp only [classAt, around, if_neg h, List.reverse_nil, List.findSome?_nil]

end Token

namespace Segment
open Token (around aroundAny)
variable {styles : StyleTable}

theorem eq_of_mem_between {a b : Nat} {cls : Option String} {s : Segment} (h : s ∈ between a b cls) :
    s = ⟨a, b, cls⟩ := by
  unfold between at h
  split at h
  · exact List.mem_singleton.1 h
  · simp at h

/-! ### Segments have the class of their bytes -/

theorem cls_ofChildren {a b : Nat} (hab : a < b) : ∀ (ts : List Token) (cursor stop : Nat)
    (cls : Option String) (s : Segment), cursor ≤ stop → s ∈ ofChildren styles cursor stop cls ts →
      s.start ≤ a → b ≤ s.stop →
      s.cls = ((aroundAny a b cursor stop ts).reverse.findSome? styles.resolve).or cls
  | [], cursor, stop, cls, s, _, hs, _, _ => by
    rw [eq_of_mem_between hs]; rfl
  | .node first last tags children :: rest, cursor, stop, cls, s, hle, hs, ha, hb => by
    have hs₁ := le_clamp cursor stop first
    have hs₂ := clamp_le hle first
    have hf₁ := le_clamp (clamp cursor stop first) stop last
    have hf₂ := clamp_le hs₂ last
    simp only [ofChildren, ofToken, List.mem_append] at hs
    simp only [aroundAny, around]
    generalize clamp cursor stop first = start at *
    generalize clamp start stop last = finish at *
    rcases hs with (hs | hs) | hs
    · -- in front of the child
      cases eq_of_mem_between hs
      simp only at hb
      have hout : ¬(start ≤ a ∧ b ≤ finish) := by omega
      rw [if_neg hout, Token.aroundAny_of_lt (show a < finish by omega) stop rest]
      rfl
    · -- in the child
      have hin := (tiling_ofChildren hf₁ ((styles.resolve tags).or cls) children).within s.range
        (List.mem_map_of_mem hs)
      simp only [range] at hin
      have hrange : start ≤ a ∧ b ≤ finish := by omega
      have ih := cls_ofChildren hab children start finish _ s hf₁ hs ha hb
      rw [if_pos hrange, Token.aroundAny_of_lt (show a < finish by omega) stop rest, List.append_nil,
        List.reverse_cons, List.findSome?_append, ih]
      simp [Option.or_assoc]
    · -- behind the child
      have hin := (tiling_ofChildren hf₂ cls rest).within s.range (List.mem_map_of_mem hs)
      simp only [range] at hin
      have hout : ¬(start ≤ a ∧ b ≤ finish) := by omega
      rw [if_neg hout, List.nil_append]
      exact cls_ofChildren hab rest finish stop cls s hf₂ hs ha hb

/-! ### Segments end between characters -/

theorem boundary_clamp {text : List Char} {lo hi n : Nat} (hlo : Boundary text lo) (hhi : Boundary text hi)
    (hn : Token.Whole text n) : Boundary text (clamp lo hi n) := by
  have hmin : Boundary text (min n hi) := by
    rcases hn with hn | hn
    · rcases Nat.le_total n hi with h | h
      · rwa [Nat.min_eq_left h]
      · rwa [Nat.min_eq_right h]
    · rwa [Nat.min_eq_right (Nat.le_trans hhi.le (Nat.le_of_lt hn))]
  unfold clamp
  rcases Nat.le_total lo (min n hi) with h | h
  · rwa [Nat.max_eq_right h]
  · rwa [Nat.max_eq_left h]

/-- All segments end between characters. -/
def Cut (text : List Char) (segments : List Segment) : Prop :=
  ∀ s ∈ segments, Boundary text s.start ∧ Boundary text s.stop

theorem cut_between {text : List Char} {a b : Nat} (ha : Boundary text a) (hb : Boundary text b)
    (cls : Option String) : Cut text (between a b cls) := by
  intro s hs
  rw [eq_of_mem_between hs]
  exact ⟨ha, hb⟩

theorem cut_ofChildren {text : List Char} : ∀ (ts : List Token) (cursor stop : Nat) (cls : Option String),
    Boundary text cursor → Boundary text stop → Token.WholeEndsAll text ts →
      Cut text (ofChildren styles cursor stop cls ts)
  | [], _, _, cls, hc, hs, _ => cut_between hc hs cls
  | .node first last tags children :: rest, cursor, stop, cls, hc, hs, h => by
    obtain ⟨⟨hfirst, hlast, hchildren⟩, hrest⟩ := h
    have hb₁ := boundary_clamp hc hs hfirst
    have hb₂ := boundary_clamp hb₁ hs hlast
    intro s hmem
    simp only [ofChildren, ofToken, List.mem_append] at hmem
    rcases hmem with (hmem | hmem) | hmem
    · exact cut_between hc hb₁ cls s hmem
    · exact cut_ofChildren children _ _ _ hb₁ hb₂ hchildren s hmem
    · exact cut_ofChildren rest _ _ _ hb₂ hs hrest s hmem

/-! ### Drawing -/

/-- The segments tile the bytes from `start` to `stop`, end between characters, and have the class
`K i` where they hold the character `i`. -/
structure Draws (text : List Char) (K : Nat → Option String) (start stop : Nat)
    (segments : List Segment) : Prop where
  tiles : Tiles start stop segments
  cut : Cut text segments
  paints : ∀ s ∈ segments, ∀ i, i < text.length → s.start ≤ byteOffset text i →
    byteOffset text (i + 1) ≤ s.stop → K i = s.cls

namespace Draws
variable {text : List Char} {K : Nat → Option String} {a b c : Nat} {s : Segment} {ss ts : List Segment}

theorem append (h : Draws text K a b ss) (h' : Draws text K b c ts) : Draws text K a c (ss ++ ts) where
  tiles := by
    simp only [Tiles, List.map_append]
    exact h.tiles.append h'.tiles
  cut s hs := by
    rcases List.mem_append.1 hs with hs | hs
    · exact h.cut s hs
    · exact h'.cut s hs
  paints s hs := by
    rcases List.mem_append.1 hs with hs | hs
    · exact h.paints s hs
    · exact h'.paints s hs

theorem between (hle : a ≤ b) (ha : Boundary text a) (hb : Boundary text b)
    (hK : ∀ i, i < text.length → a ≤ byteOffset text i → byteOffset text (i + 1) ≤ b → K i = none) :
    Draws text K a b (between a b none) where
  tiles := tiling_between hle none
  cut := cut_between ha hb none
  paints s hs := by
    rw [eq_of_mem_between hs]
    exact hK

theorem tail (h : Draws text K a b (s :: ss)) : Draws text K s.stop b ss :=
  ⟨h.tiles.2.2, fun t ht => h.cut t (List.mem_cons_of_mem s ht),
    fun t ht => h.paints t (List.mem_cons_of_mem s ht)⟩

theorem consRun (h : Draws text K a b (s :: ss)) : Draws text K a b (consRun s ss) := by
  refine ⟨tiling_consRun h.tiles, ?_, ?_⟩
  · cases ss with
    | nil => exact h.cut
    | cons t ts =>
      have hs := h.cut s (List.mem_cons_self ..)
      have ht := h.tail.cut t (List.mem_cons_self ..)
      simp only [Segment.consRun]
      split
      · intro u hu
        rcases List.mem_cons.1 hu with rfl | hu
        · exact ⟨hs.1, ht.2⟩
        · exact h.tail.tail.cut u hu
      · exact h.cut
  · cases ss with
    | nil => exact h.paints
    | cons t ts =>
      simp only [Segment.consRun]
      split
      · intro u hu i hi hstart hstop
        rcases List.mem_cons.1 hu with rfl | hu
        · -- The seam is a boundary, so the character lies on one side of it.
          rcases (h.cut s (List.mem_cons_self ..)).2.before_or_after i with hseam | hseam
          · have hnext : t.start = s.stop := h.tiles.2.2.1
            rw [h.tail.paints t (List.mem_cons_self ..) i hi (by omega) hstop]
            exact Eq.symm ‹s.cls = t.cls›
          · exact h.paints s (List.mem_cons_self ..) i hi hstart hseam
        · exact h.tail.tail.paints u hu i hi hstart hstop
      · exact h.paints

theorem runs (h : Draws text K a b ss) : Draws text K a b (runs ss) := by
  induction ss generalizing a with
  | nil => exact h
  | cons s ss ih =>
    have hrest := ih h.tail
    have hcons : Draws text K a b (s :: Segment.runs ss) := by
      refine ⟨⟨h.tiles.1, h.tiles.2.1, hrest.tiles⟩, fun t ht => ?_, fun t ht => ?_⟩
      · rcases List.mem_cons.1 ht with rfl | ht
        · exact h.cut t (List.mem_cons_self ..)
        · exact hrest.cut t ht
      · rcases List.mem_cons.1 ht with rfl | ht
        · exact h.paints t (List.mem_cons_self ..)
        · exact hrest.paints t ht
    exact hcons.consRun

end Draws

theorem isChain_runs (segments : List Segment) : (runs segments).IsChain fun s t => s.cls ≠ t.cls := by
  induction segments with
  | nil => exact .nil
  | cons s ss ih =>
    show (consRun s (runs ss)).IsChain _
    cases hruns : runs ss with
    | nil => exact .singleton s
    | cons t ts =>
      rw [hruns] at ih
      simp only [consRun]
      split
      · cases ts with
        | nil => exact .singleton _
        | cons u us =>
          have hne := (List.isChain_cons_cons.1 ih).1
          exact .cons_cons (by simp only; rwa [‹s.cls = t.cls›]) ih.tail
      · exact .cons_cons ‹_› ih

/-! ### From segments to spans -/

/-- The span of a segment that ends between characters. -/
def toSpan (text : List Char) (s : Segment) : Span :=
  ⟨charsEndingBy text s.start, charsEndingBy text s.stop, s.cls⟩

theorem spans_eq_map {counter : Text.CharCounter} {a b : Nat} {segments : List Segment}
    (hc : counter.Placed) (ht : Tiles a b segments) (hcut : Cut counter.text segments) :
    spans counter segments = segments.map (toSpan counter.text) := by
  induction segments generalizing counter a with
  | nil => rfl
  | cons s ss ih =>
    obtain ⟨-, hlt, ht⟩ := ht
    obtain ⟨hstart, hstop⟩ := hcut s (List.mem_cons_self ..)
    have hfirst := Text.CharCounter.moveTo_chars hc s.start
    have hplaced := Text.CharCounter.placed_moveTo hc s.start
    have hlast := Text.CharCounter.moveTo_chars hplaced s.stop
    have hrest := ih (Text.CharCounter.placed_moveTo hplaced s.stop) ht
      (by rw [Text.CharCounter.moveTo_text, Text.CharCounter.moveTo_text]
          exact fun t ht => hcut t (List.mem_cons_of_mem s ht))
    simp only [Text.CharCounter.moveTo_text] at hlast hrest
    simp only [spans, hfirst, hlast, if_pos (hstart.charsEndingBy_lt hstop hlt), hrest, List.map_cons]
    rfl

/-- Segments that draw the whole text give the runs of its classes. -/
theorem Draws.spans_runs {text : List Char} {K : Nat → Option String} {segments : List Segment}
    (h : Draws text K 0 (byteLength text) segments) :
    spans (.start text) (Segment.runs segments) = Span.runLength ((List.range text.length).map K) ∧
      Span.Maximal (spans (.start text) (Segment.runs segments)) := by
  have hr := h.runs
  have hplaced := Text.CharCounter.placed_start text
  have hmap := spans_eq_map hplaced hr.tiles hr.cut
  have htiles := tiling_spans hplaced hr.tiles
  simp only [Text.CharCounter.start_text, Text.charsEndingBy_zero, Text.charsEndingBy_byteLength] at hmap htiles
  have hmax : Span.Maximal (spans (.start text) (Segment.runs segments)) := by
    rw [hmap, Span.Maximal, List.isChain_map]
    exact isChain_runs segments
  refine ⟨Span.eq_runLength (by simpa using htiles) ?_ hmax, hmax⟩
  rw [hmap]
  intro s hs j hj₁ hj₂
  obtain ⟨g, hg, rfl⟩ := List.mem_map.1 hs
  simp only [toSpan, Nat.zero_add] at hj₁ hj₂ ⊢
  obtain ⟨hstart, hstop⟩ := hr.cut g hg
  have hj : j < text.length := Nat.lt_of_lt_of_le hj₂ (Text.charsEndingBy_le_length text _)
  have h₁ := Text.byteOffset_mono text hj₁
  have h₂ := Text.byteOffset_mono text (Nat.succ_le_of_lt hj₂)
  rw [hstart.byteOffset_charsEndingBy] at h₁
  rw [hstop.byteOffset_charsEndingBy] at h₂
  rw [List.getElem?_map, List.getElem?_range hj, Option.map_some, hr.paints g hg j hj h₁ h₂]

end Segment

open Segment in
/-- The segments of a tree draw the classes of its characters in the range of the root. -/
theorem Token.draws_ofChildren (styles : StyleTable) (tags : List StyleTag) {text : List Char}
    {first last start stop : Nat} {children : List Token} (hfirst : min first (byteLength text) = start)
    (hlast : clamp start (byteLength text) last = stop) (hstart : Boundary text start)
    (hstop : Boundary text stop) (hchildren : WholeEndsAll text children) :
    Draws text (classOf styles text (.node first last tags children)) start stop
      (ofChildren styles start stop (styles.resolve tags) children) := by
  have hle : start ≤ stop := hlast ▸ le_clamp start (byteLength text) last
  refine ⟨tiling_ofChildren hle _ children, cut_ofChildren children _ _ _ hstart hstop hchildren, ?_⟩
  intro s hs i hi h₁ h₂
  have hin := (tiling_ofChildren hle (styles.resolve tags) children).within s.range
    (List.mem_map_of_mem hs)
  simp only [range] at hin
  have hrange : start ≤ byteOffset text i ∧ byteOffset text (i + 1) ≤ stop := by omega
  rw [cls_ofChildren (Text.byteOffset_lt_succ hi) children _ _ _ s hle hs h₁ h₂, classOf, classAt]
  simp only [around, hfirst, hlast, if_pos hrange, List.reverse_cons, List.findSome?_append]
  simp

open Segment in
/-- Filled up, they draw the classes of all characters. -/
theorem Token.draws_cover (styles : StyleTable) (text : List Char) (t : Token) (h : t.WholeEnds text) :
    Draws text (t.classOf styles text) 0 (byteLength text)
      (cover (byteLength text) (ofTree styles (byteLength text) t.encode)) := by
  cases t with
  | node first last tags children =>
    obtain ⟨hfirst, hlast, hchildren⟩ := h
    have hz := Boundary.zero text
    have hlen := Boundary.byteLength text
    have hstart : Boundary text (min first (byteLength text)) := by
      have := boundary_clamp hz hlen hfirst
      simpa [clamp] using this
    have hstop := boundary_clamp hstart hlen hlast
    have hle' := clamp_le (Nat.min_le_right first (byteLength text)) last
    have hclass : ∀ i, ¬(min first (byteLength text) ≤ byteOffset text i ∧
        byteOffset text (i + 1) ≤ clamp (min first (byteLength text)) (byteLength text) last) →
        classOf styles text (.node first last tags children) i = none :=
      fun i hi => classAt_outside hi
    have hroot := draws_ofChildren styles tags rfl rfl hstart hstop hchildren
    simp only [ofTree, token?_encode, ofToken]
    generalize min first (byteLength text) = start at *
    generalize clamp start (byteLength text) last = stop at *
    by_cases hne : ofChildren styles start stop (styles.resolve tags) children = []
    · have hempty : start = stop := by
        have := hroot.tiles
        rw [hne] at this
        exact this
      rw [hne]
      refine Draws.between (Nat.zero_le _) hz hlen fun i hi _ _ => hclass i ?_
      have := Text.byteOffset_lt_succ hi
      omega
    · rw [hroot.tiles.cover_eq hne]
      refine ((Draws.between (Nat.zero_le _) hz hstart ?_).append hroot).append
        (Draws.between hle' hstop hlen ?_)
      all_goals
        intro i hi h₁ h₂
        have := Text.byteOffset_lt_succ hi
        exact hclass i (by omega)

/-- The spans of a text for a tree of tokens with no end inside a character are the runs of the classes
of its characters, and no two that follow each other have the same class. -/
theorem highlight_runLength (g : Grammar) (styles : StyleTable) (text : List Char) (t : Token)
    (hparse : g.parse text = .ok t.encode) (hends : t.WholeEnds text) :
    ∃ spans, (highlight g styles text).1 = .ok spans ∧
      spans = Span.runLength (t.classes styles text) ∧ Span.Maximal spans := by
  have h := (t.draws_cover styles text hends).spans_runs
  exact ⟨_, highlight_of_parse styles hparse, h⟩

/-- A string with an untagged token and an overlapping keyword in it, over a text of four bytes. -/
def quotedToken : Token :=
  .node 0 9 [{ tag := .string }] [.node 0 2 [] [], .node 0 3 [{ tag := .keyword }] [.node 2 3 [] []]]

theorem highlight_runLength_quoted :
    (Grammar.fixed quotedToken.encode).parse ['é', 'x', 'y'] = .ok quotedToken.encode ∧
      quotedToken.WholeEnds ['é', 'x', 'y'] ∧
      ∃ spans, (highlight (.fixed quotedToken.encode) .standard ['é', 'x', 'y']).1 = .ok spans ∧
        spans = Span.runLength (quotedToken.classes .standard ['é', 'x', 'y']) ∧ Span.Maximal spans := by
  have hends : quotedToken.WholeEnds ['é', 'x', 'y'] :=
    ⟨.inl ⟨0, by decide, rfl⟩, .inr (by decide),
      ⟨.inl ⟨0, by decide, rfl⟩, .inl ⟨1, by decide, rfl⟩, trivial⟩,
      ⟨.inl ⟨0, by decide, rfl⟩, .inl ⟨2, by decide, rfl⟩,
        ⟨.inl ⟨1, by decide, rfl⟩, .inl ⟨2, by decide, rfl⟩, trivial⟩, trivial⟩, trivial⟩
  exact ⟨rfl, hends, highlight_runLength (.fixed quotedToken.encode) .standard _ quotedToken rfl hends⟩

end Scriptlet
