import Scriptlet.Proofs.BlindMatches
import Scriptlet.Proofs.CheckedDelimiters
import Scriptlet.Proofs.ScanMarkers

/-!
# Scanner and grammar agree on the markers

The scanner matches on lines, the grammar on fragments cut out of the document. For a pattern that is
blind to its surroundings and stays in its line (`Plain`), a match on a line is a match on the document
from there on (`matchLength?_offsetOf`), and what is cut off behind a marker changes nothing. So a fragment
is taken apart where the scanner has matched (`scan_split`).

A pattern that can go on behind a break matches more on a fragment than on a line (`split_crossing`).
-/

namespace Scriptlet

namespace Pattern
variable {p : Pattern} {doc : Document}

/-- Matches depend on the characters they read alone, and end in the line they start in. -/
structure Plain (p : Pattern) : Prop where
  blind : p.assertions = []
  inLine : p.StaysInLine

/-! ### From lines to the document -/

theorem Plain.matchLength?_offsetOf (hp : p.Plain) {n i : Nat} {l : List Char} (hl : doc.lines[n]? = some l)
    (hi : i < l.length) : matchLength? p.program ((Text.Cursor.start l).advance i) =
      matchLength? p.program (.start (doc.chars.drop (doc.offsetOf n i))) := by
  have hblind := blind_program hp.blind
  have hlines := Document.splitLines_offsetOf hl hi
  rw [hblind.matchLength?_eq_start, Text.Cursor.after_start_advance]
  rw [Document.drop_offsetOf hl (Nat.le_of_lt hi)] at hlines ⊢
  rcases hblind.matchLength?_append (l.drop i) (doc.lines.drop (n + 1)).flatten with heq | ⟨m, hm, hlong⟩
  · exact heq.symm
  · have := hp.inLine _ _ _ m hlines hlong
    omega

end Pattern

namespace Scan
variable {p : Pattern} {ls : List (List Char)} {l : List Char} {s : Spot} {m : Marker} {k i : Nat}

theorem find?_of_findInLine {a b : Nat} (hi : i ≤ l.length) (hab : a ≤ b) (hb : b ≤ l.length)
    (h : Delimiters.findInLine p l (Text.byteOffset l i) =
      .ok (some (Text.byteOffset l a, Text.byteOffset l b))) :
    Pattern.matchLength? p.program ((Text.Cursor.start l).advance a) = some (b - a) ∧
      ∀ j, i ≤ j → j < a → Pattern.matchLength? p.program ((Text.Cursor.start l).advance j) = none := by
  rw [Delimiters.findInLine_byteOffset _ hi] at h
  obtain ⟨⟨skip, size⟩, hfind, hrange⟩ := Option.map_eq_some_iff.1 (Except.ok.inj h)
  obtain ⟨hstart, hstop⟩ := Prod.mk.inj hrange
  have hle := Pattern.find?_le hfind
  rw [Text.Cursor.after_start_advance, List.length_drop] at hle
  obtain rfl := Text.byteOffset_inj (by omega) (by omega) hstart
  obtain rfl := Text.byteOffset_inj (by omega) hb hstop
  obtain ⟨-, hmatch, hleast⟩ := Pattern.find?_eq_some_iff.1 hfind
  rw [Text.Cursor.advance_advance] at hmatch
  refine ⟨by rw [hmatch, Nat.add_sub_cancel_left], fun j hij hj => ?_⟩
  have := hleast (j - i) (by omega)
  rwa [Text.Cursor.advance_advance, show i + (j - i) = j by omega] at this

theorem Misses.matchLength?_eq_none {n : Nat} (h : Misses (Delimiters.findInLine p) ls s n)
    (hl : ls[k]? = some l) (hk : s.line ≤ k) (hkn : k < n) (hi : s.columnIn k ≤ i) (hil : i ≤ l.length) :
    Pattern.matchLength? p.program ((Text.Cursor.start l).advance i) = none := by
  have hmiss := h k l hl hk hkn
  rw [Delimiters.findInLine_byteOffset _ (by omega), Except.ok.injEq, Option.map_eq_none_iff] at hmiss
  have := Pattern.find?_eq_none_iff.1 hmiss (i - s.columnIn k) (by
    rw [Text.Cursor.after_start_advance, List.length_drop]; omega)
  rwa [Text.Cursor.advance_advance, show s.columnIn k + (i - s.columnIn k) = i by omega] at this

/-- A marker that comes first in the lines from a spot on comes first in the document from there on. -/
theorem First.matchLength? {doc : Document} (hp : p.Plain)
    (h : First (Delimiters.findInLine p) doc.lines s (some m)) :
    Pattern.matchLength? p.program (.start (doc.chars.drop (m.first doc))) = some (m.stop - m.start) ∧
      ∀ offset, doc.offsetOf s.line s.column ≤ offset → offset < m.first doc →
        Pattern.matchLength? p.program (.start (doc.chars.drop offset)) = none := by
  obtain ⟨⟨l, hl, hlt, hle⟩, ⟨hline, hcol⟩, hmiss, l', hl', hfind⟩ := h
  cases hl.symm.trans hl'
  obtain ⟨hmatch, hleast⟩ := find?_of_findInLine (by omega) (Nat.le_of_lt hlt) hle hfind
  rw [hp.matchLength?_offsetOf hl (by omega)] at hmatch
  refine ⟨hmatch, fun offset hfrom hto => ?_⟩
  -- the offset is a column of a line between that of the spot and that of the marker
  have hlen := Document.offsetOf_le_length hl (by omega : m.start ≤ l.length)
  obtain ⟨k, lk, i, hlk, hi, rfl⟩ := doc.exists_offsetOf (Nat.lt_of_lt_of_le hto hlen)
  rw [← hp.matchLength?_offsetOf hlk hi]
  have hfromLine : s.line ≤ k := by
    refine Nat.le_of_not_lt fun hk => ?_
    have : doc.offsetOf k i < doc.offsetOf s.line s.column := Document.offsetOf_le_of_lt hlk hi hk _
    omega
  have hfromCol : s.columnIn k ≤ i := by
    unfold Spot.columnIn
    split
    · rename_i heq
      subst heq
      simp only [Document.offsetOf] at hfrom
      omega
    · omega
  rcases Nat.lt_trichotomy k m.line with hk | rfl | hk
  · exact hmiss.matchLength?_eq_none hlk hfromLine hk hfromCol (Nat.le_of_lt hi)
  · cases hl.symm.trans hlk
    refine hleast i hfromCol ?_
    simp only [Marker.first, Document.offsetOf] at hto
    omega
  · have : doc.offsetOf m.line m.start < doc.offsetOf k i :=
      Document.offsetOf_le_of_lt hl (Nat.lt_of_lt_of_le hlt hle) hk i
    exact absurd hto (Nat.lt_asymm this)

end Scan

/-! ### From the document to fragments -/

namespace Delimiters
variable {d : Delimiters} {u b c v : List Char}

/-- An opener in front of a text is still in front of it when the text is cut off behind the opener. -/
theorem openerLength?_eq (ho : d.opener.Plain)
    (h : Pattern.matchLength? d.opener.program (.start (u ++ (b ++ v))) = some u.length) :
    d.openerLength? (u ++ b) = some u.length := by
  rw [← List.append_assoc] at h
  have hmatch := (Pattern.blind_program ho.blind).matchLength?_of_append h (by rw [List.length_append]; omega)
  have hfind : d.opener.find? (.start (u ++ b)) = some (0, u.length) :=
    Pattern.find?_eq_some_iff.2 ⟨Nat.zero_le _, by rwa [Text.Cursor.advance_zero], fun i hi => by omega⟩
  simp only [openerLength?, hfind]

theorem closerStart?_eq_of_find? (hd : d.NeverEmpty) {text : List Char} {k n : Nat}
    (h : d.closer.find? (.start text) = some (k, n)) (hend : k + n = text.length) :
    d.closerStart? text = some k := by
  have hn := hd _ k n (.inr h)
  have hrest : ∀ fuel last, d.closer.findAllFrom fuel ((Text.Cursor.start text).advance (k + n)) last = [] := by
    intro fuel last
    cases fuel with
    | zero => rfl
    | succ fuel =>
      rw [Pattern.findAllFrom]
      cases hfind : d.closer.find? ((Text.Cursor.start text).advance (k + n)) with
      | none => rfl
      | some r =>
        -- nothing is left, so a match there would be empty
        have hle := Pattern.find?_le hfind
        rw [Text.Cursor.after_start_advance, hend, List.drop_length, List.length_nil] at hle
        have := hd _ r.1 r.2 (.inr hfind)
        omega
  have hall : d.closer.findAll text = [(k, text.length)] := by
    rw [Pattern.findAll, Pattern.findAllFrom, h]
    simp only [hrest, reduceCtorEq, and_false, if_false]
    rw [Text.Cursor.column_start, Nat.zero_add, hend]
  simp [closerStart?, hall]

/-- A closer that comes first in a text, and in the text from where the search starts, ends the part that
is cut off behind it. -/
theorem closerStart?_eq (hd : d.NeverEmpty) (hc : d.closer.Plain)
    (hmatch : Pattern.matchLength? d.closer.program (.start (c ++ v)) = some c.length)
    (hmiss : ∀ i < b.length, Pattern.matchLength? d.closer.program (.start ((b ++ (c ++ v)).drop i)) = none) :
    d.closerStart? (b ++ c) = some b.length := by
  have hblind := Pattern.blind_program hc.blind
  refine closerStart?_eq_of_find? hd (n := c.length) (Pattern.find?_eq_some_iff.2 ⟨?_, ?_, fun i hi => ?_⟩)
    List.length_append.symm
  · exact List.length_append ▸ Nat.le_add_right ..
  · rw [hblind.matchLength?_eq_start, Text.Cursor.after_start_advance, List.drop_left]
    exact hblind.matchLength?_of_append hmatch (Nat.le_refl _)
  · have hdrop := hmiss i hi
    rw [← List.append_assoc, List.drop_append_of_le_length (by rw [List.length_append]; omega)] at hdrop
    rw [hblind.matchLength?_eq_start, Text.Cursor.after_start_advance]
    exact hblind.matchLength?_eq_none_of_append hdrop

theorem leadingOpen_eq (h : d.openerLength? (u ++ b) = some u.length) :
    d.leadingOpen (u ++ b) = some (Text.byteLength u) := by
  rw [leadingOpen, h, Option.map_some, List.take_left]

theorem trailingClose_eq (h : d.closerStart? (b ++ c) = some b.length) :
    d.trailingClose (u ++ (b ++ c)) (Text.byteLength u) =
      some (Text.byteLength (u ++ (b ++ c)) - Text.byteLength c) := by
  simp only [trailingClose, Text.splitAtByte?_byteLength, h, Option.map_some, List.take_left, Text.byteLength_append,
    Option.some.injEq]
  omega

theorem split_eq (ho : d.openerLength? (u ++ (b ++ c)) = some u.length)
    (hc : d.closerStart? (b ++ c) = some b.length) : d.split (u ++ (b ++ c)) = ⟨u, b, c⟩ := by
  simp only [split, ho, Option.getD_some, List.take_left, List.drop_left, hc]

end Delimiters

/-! ### Fragments -/

namespace Scan
variable {d : Delimiters} {doc : Document} {p : Marker × Marker}

theorem Marker.length_text {m : Marker} (h : m.Within doc.lines) :
    (m.text doc.lines).length = m.stop - m.start := by
  have hlen := Document.length_of_slice (Marker.slice_within h)
  simp only [Marker.first, Marker.last, Document.offsetOf] at hlen
  omega

/-- A fragment with its text around the body, taken apart as the scanner has matched it. -/
theorem Paired.takenApart (hd : d.NeverEmpty) (ho : d.opener.Plain) (hc : d.closer.Plain)
    (h : Paired d doc.lines p) {body : List Char}
    (hbody : doc.slice (p.1.last doc) (p.2.first doc) = .ok body) :
    d.openerLength? (p.1.text doc.lines ++ (body ++ p.2.text doc.lines)) = some (p.1.text doc.lines).length ∧
      d.closerStart? (body ++ p.2.text doc.lines) = some body.length := by
  obtain ⟨⟨s, hopen⟩, hclose⟩ := h
  have hopenDrop := Document.drop_of_slice (Marker.slice_within hopen.1)
  have hbodyDrop := Document.drop_of_slice hbody
  have hcloseDrop := Document.drop_of_slice (Marker.slice_within hclose.1)
  have hopenMatch := (First.matchLength? ho hopen).1
  obtain ⟨hcloseMatch, hmiss⟩ := First.matchLength? hc hclose
  rw [← Marker.length_text hopen.1, hopenDrop, hbodyDrop, hcloseDrop, ← List.append_assoc body] at hopenMatch
  rw [← Marker.length_text hclose.1, hcloseDrop] at hcloseMatch
  refine ⟨Delimiters.openerLength?_eq ho hopenMatch, Delimiters.closerStart?_eq hd hc hcloseMatch fun i hi => ?_⟩
  have hlen := Document.length_of_slice hbody
  have := hmiss (p.1.last doc + i) (Nat.le_add_right _ _) (by omega)
  rwa [← List.drop_drop, hbodyDrop, hcloseDrop] at this

end Scan

open Scan

/-- Plain delimiters are matched on fragments as they were on the lines: each fragment starts with the
opener and ends with the closer of its region, and what is between them is its body. -/
theorem scan_split {d : Delimiters} (hd : d.NeverEmpty) (ho : d.opener.Plain) (hc : d.closer.Plain)
    (doc : Document) :
    ∃ ps, Reads d doc.lines ⟨0, 0⟩ none ps ∧ (scan d doc).regions = ps.map (regionOf doc) ∧
      ∀ p ∈ ps, ∃ body fragment, doc.slice (p.1.last doc) (p.2.first doc) = .ok body ∧
        doc.slice (regionOf doc p).start (regionOf doc p).stop = .ok fragment ∧
        d.leadingOpen fragment = some (Text.byteLength (p.1.text doc.lines)) ∧
        d.trailingClose fragment (Text.byteLength (p.1.text doc.lines)) =
          some (Text.byteLength fragment - Text.byteLength (p.2.text doc.lines)) ∧
        d.split fragment = ⟨p.1.text doc.lines, body, p.2.text doc.lines⟩ := by
  obtain ⟨ps, hps, hregions⟩ := scan_reads hd doc
  refine ⟨ps, hps, hregions, fun p hp => ?_⟩
  have hpaired := hps.paired (by simp) p hp
  obtain ⟨body, hbody, htext⟩ := slice_regionOf hpaired
  obtain ⟨hopen, hclose⟩ := hpaired.takenApart hd ho hc hbody
  rw [List.append_assoc] at htext
  exact ⟨body, _, hbody, htext, Delimiters.leadingOpen_eq hopen, Delimiters.trailingClose_eq hclose,
    Delimiters.split_eq hopen hclose⟩

/-- Markers that may have a minus on their inner side. -/
def trimming : Delimiters where
  opener := .seq (.literal ['<', '#']) (.repeated true 0 (some 1) (.literal ['-']))
  closer := .seq (.repeated true 0 (some 1) (.literal ['-'])) (.literal ['#', '>'])

theorem neverEmpty_trimming : trimming.NeverEmpty :=
  Delimiters.Checked.neverEmpty ⟨rfl, rfl⟩ (.inl rfl) (.inl rfl)

theorem plain_trimming : trimming.opener.Plain ∧ trimming.closer.Plain :=
  ⟨⟨rfl, Pattern.staysInLine_of_sets (by decide)⟩, rfl, Pattern.staysInLine_of_sets (by decide)⟩

/-- A fragment over two lines, behind a character of two bytes. -/
def trimmedDocument : Document := .ofString "é<#- x\r\n -#>"

theorem scan_split_trimming : trimming.NeverEmpty ∧ trimming.opener.Plain ∧ trimming.closer.Plain ∧
    ∃ ps, Reads trimming trimmedDocument.lines ⟨0, 0⟩ none ps ∧
      ps.map (regionOf trimmedDocument) = [⟨1, 12, .inline⟩] ∧
      ∀ p ∈ ps, ∃ body fragment,
        trimmedDocument.slice (p.1.last trimmedDocument) (p.2.first trimmedDocument) = .ok body ∧
        trimmedDocument.slice (regionOf trimmedDocument p).start (regionOf trimmedDocument p).stop = .ok fragment ∧
        trimming.split fragment = ⟨p.1.text trimmedDocument.lines, body, p.2.text trimmedDocument.lines⟩ := by
  have hregions : (scan trimming trimmedDocument).regions = [⟨1, 12, .inline⟩] := by cbv
  obtain ⟨hopener, hcloser⟩ := plain_trimming
  obtain ⟨ps, hps, hmap, hall⟩ := scan_split neverEmpty_trimming hopener hcloser trimmedDocument
  refine ⟨neverEmpty_trimming, hopener, hcloser, ps, hps, hmap.symm.trans hregions, fun p hp => ?_⟩
  obtain ⟨body, fragment, hbody, hfragment, _, _, hsplit⟩ := hall p hp
  exact ⟨body, fragment, hbody, hfragment, hsplit⟩

/-- Markers of which the opener takes in all the line feeds behind it. -/
def crossing : Delimiters where
  opener := .seq (.literal ['<', '%']) (.repeated true 0 none (.literal ['\n']))
  closer := .literal ['%', '>']

/-- On its line the opener ends with the line, on the fragment it goes on to the next one. -/
theorem split_crossing : Delimiters.ofTexts "<%\\n*" "%>" = .ok crossing ∧ crossing.NeverEmpty ∧
    (Document.ofString "<%\n\nx%>").line 0 = .ok ['<', '%', '\n'] ∧
    crossing.findOpen ['<', '%', '\n'] 0 = .ok (some (0, 3)) ∧
    (scan crossing (.ofString "<%\n\nx%>")).regions = [⟨0, 7, .block⟩] ∧
    (Document.ofString "<%\n\nx%>").slice 0 7 = .ok ['<', '%', '\n', '\n', 'x', '%', '>'] ∧
    crossing.leadingOpen ['<', '%', '\n', '\n', 'x', '%', '>'] = some 4 := by
  have hchecked : Delimiters.ofTexts "<%\\n*" "%>" = .ok crossing := rfl
  have hempty : crossing.NeverEmpty := Delimiters.Checked.neverEmpty ⟨rfl, rfl⟩ (.inl rfl) (.inl rfl)
  exact ⟨hchecked, hempty, by rfl, by rfl, by cbv, by rfl, by rfl⟩

end Scriptlet
