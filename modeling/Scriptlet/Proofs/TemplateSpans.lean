import Scriptlet.Proofs.MarkedChars
import Scriptlet.Proofs.MarkerAgreement
import Scriptlet.Proofs.TemplateTree

/-!
# Templates from end to end

With the standard delimiters a highlighted region is taken apart into opener, body and closer. Both
delimiters have the class of meta data throughout, and every character of the body has the class that it
has when the body is highlighted alone (`View.rebuild_template`).
-/

namespace Scriptlet
open Scan

namespace Delimiters
variable {u c v : List Char}

/-! ### Between the standard delimiters -/

/-- The text is an opener, a body and a closer, and is taken apart there. The opener takes in a star
that stands behind it. -/
structure Parted (text opener body : List Char) : Prop where
  text_eq : text = opener ++ body ++ ['%', '>']
  opener_eq : opener = if text[2]? = some '*' then ['<', '%', '*'] else ['<', '%']
  split_eq : standard.split text = ⟨opener, body, ['%', '>']⟩

theorem openerLength?_standard {text : List Char} {n : Nat} (h : standard.openerLength? text = some n) :
    Pair.isAt '<' '%' text 0 = true ∧ standardOpenerSize text = n := by
  simp only [openerLength?, find?_opener, Text.Cursor.start] at h
  cases hnext : Pair.next '<' '%' text 0 with
  | none =>
    rw [hnext] at h
    cases h
  | some k =>
    rw [hnext] at h
    cases k with
    | succ k => cases h
    | zero => exact ⟨(Pair.next_eq_some.1 hnext).1, Option.some.inj h⟩

theorem opener_of_openerLength? (h : standard.openerLength? (u ++ v) = some u.length) :
    u = if (u ++ v)[2]? = some '*' then ['<', '%', '*'] else ['<', '%'] := by
  obtain ⟨hat, hsize⟩ := openerLength?_standard h
  have htake : u = (u ++ v).take u.length := List.take_left.symm
  rw [← hsize, standardOpenerSize] at htake
  obtain ⟨rest, htext⟩ := Pair.exists_eq_cons hat
  rw [htext] at htake ⊢
  split
  · rename_i hstar
    rw [if_pos hstar] at htake
    cases rest with
    | nil => cases hstar
    | cons x xs =>
      obtain rfl : x = '*' := Option.some.inj hstar
      exact htake
  · rename_i hstar
    rw [if_neg hstar] at htake
    exact htake

theorem closer_of_matchLength?
    (h : Pattern.matchLength? standard.closer.program (.start (c ++ v)) = some c.length) : c = ['%', '>'] := by
  rw [Text.Cursor.start, matchLength?_closer] at h
  split at h
  · rename_i hat
    obtain ⟨rest, htext⟩ := Pair.exists_eq_cons hat
    have hlen : c.length = 2 := (Option.some.inj h).symm
    have htake : c = (c ++ v).take c.length := List.take_left.symm
    rw [hlen, htext] at htake
    exact htake
  · cases h

theorem plain_standard : standard.opener.Plain ∧ standard.closer.Plain :=
  ⟨⟨rfl, Pattern.staysInLine_of_sets (by decide)⟩, rfl, Pattern.staysInLine_of_sets (by decide)⟩

end Delimiters

theorem Region.fragment_eq {doc : Document} {r : Region} {u : List Char} (h : doc.slice r.start r.stop = .ok u) :
    r.fragment doc = u :=
  (Document.slice_eq_ok.1 h).2

/-- Every region that the standard delimiters enclose is taken apart at its own markers. -/
theorem parted_scan {doc : Document} {r : Region} (hr : r ∈ (scan .standard doc).regions) :
    ∃ opener body, Delimiters.Parted (r.fragment doc) opener body ∧
      doc.slice r.start r.stop = .ok (opener ++ body ++ ['%', '>']) := by
  obtain ⟨ho, hc⟩ := Delimiters.plain_standard
  obtain ⟨ps, hps, hregions⟩ := scan_reads Delimiters.neverEmpty_standard doc
  rw [hregions] at hr
  obtain ⟨p, hp, rfl⟩ := List.mem_map.1 hr
  have hpaired := hps.paired (by simp) p hp
  obtain ⟨body, hbody, htext⟩ := slice_regionOf hpaired
  obtain ⟨hopen, hclose⟩ := hpaired.takenApart Delimiters.neverEmpty_standard ho hc hbody
  have hsplit := Delimiters.split_eq hopen hclose
  have hcloser : p.2.text doc.lines = ['%', '>'] := by
    have hmatch := (First.matchLength? hc hpaired.2).1
    rw [← Marker.length_text hpaired.2.1, Document.drop_of_slice (Marker.slice_within hpaired.2.1)] at hmatch
    exact Delimiters.closer_of_matchLength? hmatch
  have hopener := Delimiters.opener_of_openerLength? hopen
  rw [hcloser] at hopener hsplit htext
  have hfragment := Region.fragment_eq htext
  rw [← List.append_assoc] at hopener hsplit
  rw [← hfragment] at hopener hsplit
  exact ⟨_, body, ⟨hfragment, hopener, hsplit⟩, htext⟩

/-! ### Views of templates -/

/-- What the tokens of a region between the standard delimiters show: `tokens` are the token marks of the
document. -/
structure Region.Templated (doc : Document) (inner : Grammar) (tokens : List Mark) (r : Region)
    (opener body : List Char) : Prop where
  slice : doc.slice r.start r.stop = .ok (opener ++ body ++ ['%', '>'])
  parted : Delimiters.Parted (r.fragment doc) opener body
  asks : Template.AsksOnly .standard body (r.fragment doc)
  opened : ∀ i < opener.length, Mark.classesAt tokens (r.start + i) = ["cm-meta"]
  closed : ∀ i < 2, Mark.classesAt tokens (r.start + (opener.length + body.length + i)) = ["cm-meta"]
  /-- The spans of the body alone, which tile it, say what class its characters have, if any. -/
  inside : ∃ spans, (highlight inner .standard body).1 = .ok spans ∧ Span.Tiles 0 body.length spans ∧
    ∀ s ∈ spans, ∀ i, s.start ≤ i → i < s.stop →
      Mark.classesAt tokens (r.start + (opener.length + i)) = s.cls.toList

namespace View
variable {v : View} {inner : Grammar}

/-- A view that shows templates of the inner grammar between the standard delimiters in the standard
classes, and keeps no spans. -/
structure ShowsTemplates (v : View) (inner : Grammar) : Prop where
  delimiters : v.delimiters = .standard
  grammar : v.grammar = inner.template .standard
  styles : v.styles = .standard
  cache : v.cache = none

theorem resolve_delimiterTags : StyleTable.standard.resolve Template.delimiterTags = some "cm-meta" := by
  cbv

/-- The spans of a fragment that is highlighted are the runs of the classes of its characters. -/
theorem ShowsTemplates.answer_eq (h : v.ShowsTemplates inner) (hinner : inner.WellFormed) {text o b : List Char}
    (hparts : Delimiters.Parted text o b) {spans : List Span} (hspans : v.answer text = .ok spans) :
    ∃ ts, Template.Answers inner b ts ∧ Token.WellFormedAll b ts ∧
      spans = Span.runLength ((Template.token o b ['%', '>'] ts).classes .standard text) := by
  obtain ⟨htext, -, hsplit⟩ := hparts
  subst htext
  rw [answer, h.grammar, h.styles] at hspans
  cases hparse : (inner.template .standard).parse (o ++ b ++ ['%', '>']) with
  | error e =>
    obtain ⟨x, xs, hcons⟩ : ∃ x xs, o ++ b ++ ['%', '>'] = x :: xs := List.exists_cons_of_ne_nil (by simp)
    rw [hcons] at hspans hparse
    simp [highlight, hparse] at hspans
  | ok tree =>
    obtain ⟨ts, hanswers, hts, rfl⟩ := Template.answers_of_parse hsplit hinner hparse
    rw [highlight_of_parse _ hparse,
      Token.spansOf_encode _ _ _ (Template.wellFormed_token hts).whole] at hspans
    exact ⟨ts, hanswers, hts, (Except.ok.inj hspans).symm⟩

/-- Every region that a rebuild highlights shows its two delimiters as meta data, and its body as the inner
grammar highlights it. -/
theorem rebuild_template (h : v.ShowsTemplates inner) (hinner : inner.WellFormed) (doc : Document) :
    (v.rebuild doc).1.decorations.marks = ((scan .standard doc).regions.flatMap fun r =>
        r.inlineMarks v.settings ++ r.tokenMarks doc v.answer) ∧
      ∀ r ∈ (scan .standard doc).regions, r ∉ (v.rebuild doc).1.decorations.unhighlighted →
        ∃ opener body, r.Templated doc inner
          ((scan .standard doc).regions.flatMap fun r => r.tokenMarks doc v.answer) opener body := by
  have hreach : v.Reachable := .setUp v (.inl h.cache)
  have hd : v.delimiters.NeverEmpty := h.delimiters ▸ Delimiters.neverEmpty_standard
  have hmarks := marks_rebuild hreach hd doc
  have hwithout := unhighlighted_rebuild hreach hd doc
  rw [h.delimiters] at hmarks hwithout
  refine ⟨hmarks, fun r hr hshown => ?_⟩
  have hord := (ordered_scan Delimiters.neverEmpty_standard doc).1
  have htiles := tiles_answer v
  obtain ⟨opener, body, hparts, hslice⟩ := parted_scan hr
  -- the region is highlighted, so it has spans
  obtain ⟨spans, hspans⟩ : ∃ spans, v.answer (r.fragment doc) = .ok spans := by
    rw [hwithout, List.mem_filter, Region.failure?] at hshown
    cases hanswer : v.answer (r.fragment doc) with
    | ok spans => exact ⟨spans, rfl⟩
    | error e => simp [hanswer, hr] at hshown
  obtain ⟨ts, hanswers, hts, rfl⟩ := h.answer_eq hinner hparts hspans
  have hclass : ∀ i < (r.fragment doc).length, Mark.classesAt
      ((scan .standard doc).regions.flatMap fun r => r.tokenMarks doc v.answer) (r.start + i) =
        ((Template.token opener body ['%', '>'] ts).classOf .standard (r.fragment doc) i).toList := by
    intro i hi
    refine hord.classesAt_runs htiles hr hspans ?_
    rw [Token.classes, List.getElem?_map, List.getElem?_range hi, Option.map_some]
  have htext := hparts.text_eq
  have hlen : (r.fragment doc).length = opener.length + body.length + 2 := by
    rw [htext, List.length_append, List.length_append]
    rfl
  have hasks : Template.AsksOnly .standard (Delimiters.standard.split (r.fragment doc)).body (r.fragment doc) :=
    Template.asksOnly_split
  rw [hparts.split_eq] at hasks
  refine ⟨opener, body, hslice, hparts, hasks, fun i hi => ?_, fun i hi => ?_, _,
    Template.highlight_body .standard hts hanswers, ?_, fun s hs i h₁ h₂ => ?_⟩
  · rw [hclass i (by omega), htext, Template.classOf_opener .standard hts hi, resolve_delimiterTags]
    rfl
  · rw [hclass _ (by omega), htext, Template.classOf_closer .standard hts hi, resolve_delimiterTags]
    rfl
  · simpa using Span.tiles_runLength ((List.range body.length).map _)
  · have hshows := Span.shows_runLength _ s hs i (by omega) (by omega)
    rw [List.getElem?_map, Option.map_eq_some_iff] at hshows
    obtain ⟨j, hj, hcls⟩ := hshows
    obtain ⟨hi, rfl⟩ := List.getElem?_eq_some_iff.1 hj
    rw [List.getElem_range] at hcls
    have hi : i < body.length := by simpa using hi
    rw [hclass _ (by omega), htext, Template.classOf_body .standard hts hi, hcls]

end View

theorem Grammar.wellFormed_echo (tags : List StyleTag) (refused : Option (List Char)) :
    (Grammar.echo tags refused).WellFormed := by
  intro text tree h
  rw [Grammar.echo] at h
  dsimp only at h
  split at h
  · cases h
  · cases h
    exact ⟨.node 0 (Text.byteLength text) tags [], rfl, ⟨Nat.le_refl _, Nat.zero_le _, Nat.le_refl _, trivial⟩,
      .inl (.zero text), .inl (.byteLength text), trivial⟩

namespace View

/-- A view of templates whose bodies are strings. -/
def quoting : View where
  delimiters := .standard
  grammar := (Grammar.echo [{ tag := .string }] none).template .standard
  styles := .standard
  settings := {}
  cache := none
  state := .stale
  decorations := .empty

/-- A template over two lines, behind a character of two bytes. -/
def quotedDocument : Document := .ofString "é<%* ü\n%>"

theorem rebuild_template_quoting : quoting.ShowsTemplates (.echo [{ tag := .string }] none) ∧
    (Grammar.echo [{ tag := .string }] none).WellFormed ∧
    (scan .standard quotedDocument).regions = [⟨1, 9, .inline⟩] ∧
    (quoting.rebuild quotedDocument).1.decorations.unhighlighted = [] ∧
    ∃ opener body, Region.Templated quotedDocument (.echo [{ tag := .string }] none)
      ((scan .standard quotedDocument).regions.flatMap fun r => r.tokenMarks quotedDocument quoting.answer)
      ⟨1, 9, .inline⟩ opener body := by
  have hshows : quoting.ShowsTemplates (.echo [{ tag := .string }] none) := ⟨rfl, rfl, rfl, rfl⟩
  have hregions : (scan .standard quotedDocument).regions = [⟨1, 9, .inline⟩] := by cbv
  have hwithout : (quoting.rebuild quotedDocument).1.decorations.unhighlighted = [] := by cbv
  refine ⟨hshows, Grammar.wellFormed_echo _ _, hregions, hwithout, ?_⟩
  refine (rebuild_template hshows (Grammar.wellFormed_echo _ _) quotedDocument).2 _ ?_ ?_
  · rw [hregions]
    exact List.mem_singleton_self _
  · rw [hwithout]
    exact List.not_mem_nil

end View

end Scriptlet
