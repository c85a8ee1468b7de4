import Mathlib
import Scriptlet.Proofs.LineNumbers
import Scriptlet.Proofs.PatternSearch
import Scriptlet.Proofs.ScanOrder
import Scriptlet.Proofs.StandardSearch

/-!
# The markers of the regions

`Reads` says which markers a scan is to pair, in terms of the searches of lines alone: the first opener
from a spot on, taking the lines in order, then the first closer behind it, and so on. It does not speak
of offsets, regions or what is pending, and it leaves no choice (`Reads.unique`).

The regions of a document are those between the markers of such a reading (`scan_reads`): what a search of
a line finds and leaves pending is told by markers (`tells_line`), line after line. Regions begin and end
with the text of their markers (`slice_regionOf`), and their kind is what the line of their start says
(`Marker.kind_eq_block`); `scan_marked` puts this together.
-/

namespace Scriptlet

namespace Scan

/-- A column of a line. -/
structure Spot where
  line : Nat
  column : Nat

/-- The column from which on a line is searched by a search that starts at the spot. -/
def Spot.columnIn (s : Spot) (n : Nat) : Nat :=
  if n = s.line then s.column else 0

theorem Spot.columnIn_self (n i : Nat) : Spot.columnIn ⟨n, i⟩ n = i := if_pos rfl

theorem Spot.columnIn_behind {n k : Nat} (h : n < k) (i : Nat) :
    Spot.columnIn ⟨n, i⟩ k = Spot.columnIn ⟨n + 1, 0⟩ k := by
  have hne : ¬k = n := by omega
  simp only [columnIn, if_neg hne, ite_self]

/-- A marker in a line: its first column and the one behind its last. -/
structure Marker where
  line : Nat
  start : Nat
  stop : Nat

namespace Marker

/-- Where the search goes on behind the marker. -/
def behind (m : Marker) : Spot := ⟨m.line, m.stop⟩

/-- The characters of the marker. -/
def text (ls : List (List Char)) (m : Marker) : List Char :=
  ((ls.getD m.line []).drop m.start).take (m.stop - m.start)

/-- The marker has characters, all of them in its line. -/
def Within (ls : List (List Char)) (m : Marker) : Prop :=
  ∃ l, ls[m.line]? = some l ∧ m.start < m.stop ∧ m.stop ≤ l.length

/-- The marker does not start before the spot. -/
def From (m : Marker) (s : Spot) : Prop :=
  s.line ≤ m.line ∧ s.columnIn m.line ≤ m.start

end Marker

/-! ### Reading markers off the lines -/

/-- A search of a line from a byte on, for a range of bytes. -/
abbrev Search := List Char → Nat → Except Delimiters.SearchError (Option (Nat × Nat))

/-- The search finds nothing from the spot on in the lines before the line of number `n`. -/
def Misses (find : Search) (ls : List (List Char)) (s : Spot) (n : Nat) : Prop :=
  ∀ k l, ls[k]? = some l → s.line ≤ k → k < n → find l (Text.byteOffset l (s.columnIn k)) = .ok none

/-- What the search finds first from the spot on, taking the lines in order. -/
def First (find : Search) (ls : List (List Char)) (s : Spot) : Option Marker → Prop
  | none => Misses find ls s ls.length
  | some m => m.Within ls ∧ m.From s ∧ Misses find ls s m.line ∧ ∃ l, ls[m.line]? = some l ∧
      find l (Text.byteOffset l (s.columnIn m.line)) =
        .ok (some (Text.byteOffset l m.start, Text.byteOffset l m.stop))

/-- The openers and closers that belong together from a spot on. A marker given along with the spot is
an opener whose closer is still to come. -/
inductive Reads (d : Delimiters) (ls : List (List Char)) :
    Spot → Option Marker → List (Marker × Marker) → Prop
  | noOpener {s : Spot} : First d.findOpen ls s none → Reads d ls s none []
  | opener {s : Spot} {o : Marker} {ps : List (Marker × Marker)} :
      First d.findOpen ls s (some o) → Reads d ls o.behind (some o) ps → Reads d ls s none ps
  | noCloser {s : Spot} {o : Marker} : First d.findClose ls s none → Reads d ls s (some o) []
  | closer {s : Spot} {o c : Marker} {ps : List (Marker × Marker)} :
      First d.findClose ls s (some c) → Reads d ls c.behind none ps → Reads d ls s (some o) ((o, c) :: ps)

variable {find : Search} {d : Delimiters} {ls : List (List Char)} {l : List Char} {n i : Nat}

theorem first_none_over (hn : ls.length ≤ n) : First find ls ⟨n, i⟩ none := by
  intro k l hl hle hlt
  have hle : n ≤ k := hle
  omega

theorem first_here {a b : Nat} (hl : ls[n]? = some l) (ha : i ≤ a) (hab : a < b) (hb : b ≤ l.length)
    (h : find l (Text.byteOffset l i) = .ok (some (Text.byteOffset l a, Text.byteOffset l b))) :
    First find ls ⟨n, i⟩ (some ⟨n, a, b⟩) := by
  refine ⟨⟨l, hl, hab, hb⟩, ⟨Nat.le_refl n, ?_⟩, fun k l' _ hle hlt => ?_, l, hl, ?_⟩
  · rw [Spot.columnIn_self]
    exact ha
  · have hle : n ≤ k := hle
    have hlt : k < n := hlt
    omega
  · rw [Spot.columnIn_self]
    exact h

theorem Misses.step {stop : Nat} (hl : ls[n]? = some l) (h : find l (Text.byteOffset l i) = .ok none)
    (hrest : Misses find ls ⟨n + 1, 0⟩ stop) : Misses find ls ⟨n, i⟩ stop := by
  intro k l' hl' hle hlt
  rcases Nat.eq_or_lt_of_le hle with rfl | hgt
  · rw [hl] at hl'
    cases hl'
    rw [Spot.columnIn_self]
    exact h
  · rw [Spot.columnIn_behind hgt]
    exact hrest k l' hl' hgt hlt

theorem First.step {r : Option Marker} (hl : ls[n]? = some l) (h : find l (Text.byteOffset l i) = .ok none)
    (hrest : First find ls ⟨n + 1, 0⟩ r) : First find ls ⟨n, i⟩ r := by
  cases r with
  | none => exact Misses.step hl h hrest
  | some m =>
    obtain ⟨hin, ⟨hlt, hcol⟩, hmiss, hfind⟩ := hrest
    rw [← Spot.columnIn_behind hlt i] at hcol hfind
    exact ⟨hin, ⟨Nat.le_of_lt hlt, hcol⟩, hmiss.step hl h, hfind⟩

theorem Reads.missOpener {ps : List (Marker × Marker)} (hl : ls[n]? = some l)
    (h : d.findOpen l (Text.byteOffset l i) = .ok none) (hrest : Reads d ls ⟨n + 1, 0⟩ none ps) :
    Reads d ls ⟨n, i⟩ none ps := by
  cases hrest with
  | noOpener hfirst => exact .noOpener (hfirst.step hl h)
  | opener hfirst hps => exact .opener (hfirst.step hl h) hps

theorem Reads.missCloser {o : Marker} {ps : List (Marker × Marker)} (hl : ls[n]? = some l)
    (h : d.findClose l (Text.byteOffset l i) = .ok none) (hrest : Reads d ls ⟨n + 1, 0⟩ (some o) ps) :
    Reads d ls ⟨n, i⟩ (some o) ps := by
  cases hrest with
  | noCloser hfirst => exact .noCloser (hfirst.step hl h)
  | closer hfirst hps => exact .closer (hfirst.step hl h) hps

theorem First.unique {s : Spot} {r r' : Option Marker} (h : First find ls s r) (h' : First find ls s r') :
    r = r' := by
  -- what one of them finds, the other cannot have missed
  have hnot : ∀ {m stop}, First find ls s (some m) → Misses find ls s stop → stop ≤ m.line := by
    intro m stop ⟨_, ⟨hle, _⟩, _, l, hl, hfind⟩ hmiss
    rcases Nat.lt_or_ge m.line stop with hlt | hge
    · rw [hmiss m.line l hl hle hlt] at hfind
      cases hfind
    · exact hge
  have hin : ∀ {m}, First find ls s (some m) → m.line < ls.length := fun ⟨⟨l, hl, _⟩, _⟩ =>
    (List.getElem?_eq_some_iff.1 hl).1
  match r, r' with
  | none, none => rfl
  | some m, none => exact absurd (hnot h h') (Nat.not_le.2 (hin h))
  | none, some m => exact absurd (hnot h' h) (Nat.not_le.2 (hin h'))
  | some ⟨n, a, b⟩, some ⟨n', a', b'⟩ =>
    obtain rfl : n = n' := Nat.le_antisymm (hnot h' h.2.2.1) (hnot h h'.2.2.1)
    obtain ⟨⟨l, hl, hlt, hle⟩, _, _, _, hl₁, hfind⟩ := h
    obtain ⟨⟨_, hl₂, hlt', hle'⟩, _, _, _, hl₃, hfind'⟩ := h'
    simp only at hl hl₁ hl₂ hl₃ hlt hle hlt' hle' hfind hfind'
    cases hl.symm.trans hl₁
    cases hl.symm.trans hl₂
    cases hl.symm.trans hl₃
    rw [hfind] at hfind'
    simp only [Except.ok.injEq, Option.some.injEq, Prod.mk.injEq] at hfind'
    rw [Text.byteOffset_inj (by omega) (by omega) hfind'.1, Text.byteOffset_inj hle hle' hfind'.2]

/-- The lines leave no choice of what is read off them. -/
theorem Reads.unique {s : Spot} {waiting : Option Marker} {ps qs : List (Marker × Marker)}
    (hps : Reads d ls s waiting ps) (hqs : Reads d ls s waiting qs) : ps = qs := by
  induction hps generalizing qs with
  | noOpener h =>
    cases hqs with
    | noOpener => rfl
    | opener h' => cases h.unique h'
  | opener h _ ih =>
    cases hqs with
    | noOpener h' => cases h.unique h'
    | opener h' hrest =>
      cases h.unique h'
      exact ih hrest
  | noCloser h =>
    cases hqs with
    | noCloser => rfl
    | closer h' => cases h.unique h'
  | closer h _ ih =>
    cases hqs with
    | noCloser h' => cases h.unique h'
    | closer h' hrest =>
      cases h.unique h'
      rw [ih hrest]

/-- An opener and the closer that ends its region: each comes first from where the search for it starts. -/
def Paired (d : Delimiters) (ls : List (List Char)) (p : Marker × Marker) : Prop :=
  (∃ s, First d.findOpen ls s (some p.1)) ∧ First d.findClose ls p.1.behind (some p.2)

theorem Reads.paired {s : Spot} {waiting : Option Marker} {ps : List (Marker × Marker)}
    (h : Reads d ls s waiting ps)
    (hw : ∀ o, waiting = some o → s = o.behind ∧ ∃ s', First d.findOpen ls s' (some o)) :
    ∀ p ∈ ps, Paired d ls p := by
  induction h with
  | noOpener => simp
  | opener hfirst _ ih =>
    refine ih ?_
    rintro _ ⟨⟩
    exact ⟨rfl, _, hfirst⟩
  | noCloser => simp
  | closer hfirst _ ih =>
    obtain ⟨rfl, hopen⟩ := hw _ rfl
    intro p hp
    rcases List.mem_cons.1 hp with rfl | hp
    · exact ⟨hopen, hfirst⟩
    · exact ih (by simp) p hp

end Scan

/-! ### Markers in the text -/

namespace Document
variable {doc : Document} {a b c : Nat} {u v : List Char}

theorem exists_slice (doc : Document) (hab : a ≤ b) (hb : b ≤ doc.length) : ∃ u, doc.slice a b = .ok u :=
  ⟨_, if_pos ⟨hab, hb⟩⟩

theorem slice_eq_ok : doc.slice a b = .ok u ↔
    (a ≤ b ∧ b ≤ doc.length) ∧ (doc.chars.drop a).take (b - a) = u := by
  unfold slice
  split
  · simp [*]
  · simp [*]

theorem length_of_slice (h : doc.slice a b = .ok u) : a + u.length = b := by
  obtain ⟨hle, rfl⟩ := slice_eq_ok.1 h
  rw [List.length_take, List.length_drop]
  unfold length at hle
  omega

theorem drop_of_slice (h : doc.slice a b = .ok u) : doc.chars.drop a = u ++ doc.chars.drop b := by
  obtain ⟨hle, rfl⟩ := slice_eq_ok.1 h
  have hb : doc.chars.drop b = (doc.chars.drop a).drop (b - a) := by
    rw [List.drop_drop, show a + (b - a) = b by omega]
  rw [hb, List.take_append_drop]

theorem slice_append (hu : doc.slice a b = .ok u) (hv : doc.slice b c = .ok v) :
    doc.slice a c = .ok (u ++ v) := by
  have hu' := slice_eq_ok.1 hu
  have hv' := slice_eq_ok.1 hv
  have hlen := length_of_slice hu
  refine slice_eq_ok.2 ⟨by omega, ?_⟩
  rw [drop_of_slice hu, List.take_append, List.take_of_length_le (by omega), ← hv'.2]
  congr 2
  omega

theorem slice_offsetOf {n i j : Nat} {l : List Char} (hl : doc.lines[n]? = some l) (hij : i ≤ j)
    (hj : j ≤ l.length) : doc.slice (doc.offsetOf n i) (doc.offsetOf n j) = .ok ((l.drop i).take (j - i)) := by
  have hsub : doc.offsetOf n j - doc.offsetOf n i = j - i := by
    rw [offsetOf, offsetOf]; omega
  refine slice_eq_ok.2 ⟨⟨Nat.add_le_add_left hij _, offsetOf_le_length hl hj⟩, ?_⟩
  rw [hsub, drop_offsetOf hl (Nat.le_trans hij hj), List.take_append_of_le_length (by rw [List.length_drop]; omega)]

end Document

namespace Scan
variable {doc : Document} {d : Delimiters}

namespace Marker
variable {m o c : Marker}

/-- The offset of the first character. -/
def first (doc : Document) (m : Marker) : Nat := doc.offsetOf m.line m.start

/-- The offset behind the last character. -/
def last (doc : Document) (m : Marker) : Nat := doc.offsetOf m.line m.stop

theorem slice_within (h : m.Within doc.lines) :
    doc.slice (m.first doc) (m.last doc) = .ok (m.text doc.lines) := by
  obtain ⟨l, hl, hlt, hle⟩ := h
  rw [first, last, Document.slice_offsetOf hl (Nat.le_of_lt hlt) hle, text, List.getD_eq_getElem?_getD, hl]
  rfl

theorem last_le_first (ho : o.Within doc.lines) (h : c.From o.behind) : o.last doc ≤ c.first doc := by
  obtain ⟨l, hl, _, hle⟩ := ho
  obtain ⟨hline, hcol⟩ := h
  have hline : o.line ≤ c.line := hline
  rcases Nat.eq_or_lt_of_le hline with heq | hlt
  · -- on one line the columns decide
    rw [← heq, behind, Spot.columnIn_self] at hcol
    rw [last, first, ← heq]
    exact Nat.add_le_add_left hcol _
  · exact Document.offsetOf_le_of_lt hl hle hlt c.start

theorem first_le_length (h : m.Within doc.lines) : m.first doc ≤ doc.length := by
  obtain ⟨l, hl, hlt, hle⟩ := h
  exact Document.offsetOf_le_length hl (by omega)

theorem lineStart_first (h : m.Within doc.lines) :
    (doc.lineAt (m.first doc)).bind doc.lineStart = .ok (doc.offsetOf m.line 0) := by
  obtain ⟨l, hl, hlt, hle⟩ := h
  rw [first, Document.lineAt_offsetOf hl (by omega)]
  exact Document.lineStart_eq hl

/-- How a region that starts with the marker sits in its document. -/
def kind (m : Marker) : RegionKind := if m.start = 0 then .block else .inline

/-- The kind asks for the first column, so it is block just where the line starts with the marker. -/
theorem kind_eq_block (h : m.Within doc.lines) :
    m.kind = .block ↔ (doc.lineAt (m.first doc)).bind doc.lineStart = .ok (m.first doc) := by
  rw [lineStart_first h, kind, first, Document.offsetOf, Document.offsetOf, Except.ok.injEq]
  by_cases hzero : m.start = 0
  · simp [hzero]
  · simp [hzero]

/-- The opener as one that waits for its closer. -/
def pending (doc : Document) (m : Marker) : Pending := ⟨m.first doc, m.kind⟩

end Marker

/-- The region between two markers. -/
def regionOf (doc : Document) (p : Marker × Marker) : Region := ⟨p.1.first doc, p.2.last doc, p.1.kind⟩

theorem slice_regionOf {p : Marker × Marker} (h : Paired d doc.lines p) :
    ∃ body, doc.slice (p.1.last doc) (p.2.first doc) = .ok body ∧
      doc.slice (regionOf doc p).start (regionOf doc p).stop =
        .ok (p.1.text doc.lines ++ body ++ p.2.text doc.lines) := by
  obtain ⟨⟨s, ho, _⟩, hc, hfrom, _⟩ := h
  obtain ⟨body, hbody⟩ :=
    doc.exists_slice (Marker.last_le_first ho hfrom) (Marker.first_le_length hc)
  exact ⟨body, hbody,
    Document.slice_append (Document.slice_append (Marker.slice_within ho) hbody) (Marker.slice_within hc)⟩

/-! ### Scanning reads the markers -/

/-- What has been found in a line from a column on, as markers: the regions are those between the ones
that are paired, and whatever is read off the lines behind follows them. -/
def Tells (d : Delimiters) (doc : Document) (n i : Nat) (waiting : Option Marker) (f : Found) : Prop :=
  ∃ ps waiting', f.regions = ps.map (regionOf doc) ∧ f.pending = waiting'.map (Marker.pending doc) ∧
    ∀ qs, Reads d doc.lines ⟨n + 1, 0⟩ waiting' qs → Reads d doc.lines ⟨n, i⟩ waiting (ps ++ qs)

theorem tells_line (hd : d.NeverEmpty) {n : Nat} {l : List Char} (hl : doc.lines[n]? = some l)
    (waiting : Option Marker) : Tells d doc n 0 waiting
      (line d (doc.offsetOf n 0) (.start l) false (waiting.map (Marker.pending doc))) := by
  suffices h : ∀ c pending, ∀ i ≤ l.length, c = (Text.Cursor.start l).advance i →
      ∀ waiting, pending = waiting.map (Marker.pending doc) →
        Tells d doc n i waiting (line d (doc.offsetOf n 0) c false pending) from
    h _ _ 0 (Nat.zero_le _) (Text.Cursor.advance_zero _).symm waiting rfl
  intro c pending
  refine line_induct hd (doc.offsetOf n 0) (P := fun c pending f =>
    ∀ i ≤ l.length, c = (Text.Cursor.start l).advance i →
      ∀ waiting, pending = waiting.map (Marker.pending doc) → Tells d doc n i waiting f) ?_ ?_ ?_ ?_ c pending
  -- no opener is left in the line
  · rintro _ hfind i hi rfl waiting hw
    obtain rfl : waiting = none := by simpa using hw.symm
    refine ⟨[], none, rfl, rfl, fun qs hqs => hqs.missOpener hl ?_⟩
    rw [Delimiters.findOpen, Delimiters.findInLine_byteOffset _ hi, hfind]
    rfl
  -- the opener found waits from here on
  · rintro _ k m f hfind hm hle ih i hi rfl waiting hw
    obtain rfl : waiting = none := by simpa using hw.symm
    rw [Text.Cursor.after_start_advance, List.length_drop] at hle
    rw [Text.Cursor.column_start_advance hi, Text.Cursor.advance_advance, ← Nat.add_assoc] at ih
    let o : Marker := ⟨n, i + k, i + k + m⟩
    obtain ⟨ps, waiting', hregions, hpending, hreads⟩ := ih (i + k + m) (by omega) rfl (some o) (by
      simp [o, Marker.pending, Marker.first, Marker.kind, Document.offsetOf])
    refine ⟨ps, waiting', hregions, hpending, fun qs hqs => .opener (o := o) ?_ (hreads qs hqs)⟩
    refine first_here hl (Nat.le_add_right i k) (by omega) (by omega) ?_
    rw [Delimiters.findOpen, Delimiters.findInLine_byteOffset _ hi, hfind]
    rfl
  -- no closer is left in the line
  · rintro _ p hfind i hi rfl waiting hw
    obtain ⟨o, rfl, rfl⟩ := Option.map_eq_some_iff.1 hw.symm
    refine ⟨[], some o, rfl, rfl, fun qs hqs => hqs.missCloser hl ?_⟩
    rw [Delimiters.findClose, Delimiters.findInLine_byteOffset _ hi, hfind]
    rfl
  -- the closer found makes a pair with the opener that waits
  · rintro _ p k m f hfind hm hle ih i hi rfl waiting hw
    obtain ⟨o, rfl, rfl⟩ := Option.map_eq_some_iff.1 hw.symm
    rw [Text.Cursor.after_start_advance, List.length_drop] at hle
    rw [Text.Cursor.advance_advance, ← Nat.add_assoc] at ih
    let c : Marker := ⟨n, i + k, i + k + m⟩
    obtain ⟨ps, waiting', hregions, hpending, hreads⟩ := ih (i + k + m) (by omega) rfl none rfl
    refine ⟨(o, c) :: ps, waiting', ?_, hpending, fun qs hqs => .closer (c := c) ?_ (hreads qs hqs)⟩
    · rw [Found.cons, List.map_cons, hregions, Text.Cursor.column_start_advance hi]
      simp [c, regionOf, Marker.pending, Marker.last, Document.offsetOf]
    · refine first_here hl (Nat.le_add_right i k) (by omega) (by omega) ?_
      rw [Delimiters.findClose, Delimiters.findInLine_byteOffset _ hi, hfind]
      rfl

theorem reads_lines (hd : d.NeverEmpty) (n : Nat) (ls : List (List Char)) (hls : doc.lines.drop n = ls)
    (waiting : Option Marker) :
    ∃ ps, Reads d doc.lines ⟨n, 0⟩ waiting ps ∧
      (lines d (doc.offsetOf n 0) (waiting.map (Marker.pending doc)) ls).regions = ps.map (regionOf doc) := by
  induction ls generalizing n waiting with
  | nil =>
    have hover : doc.lines.length ≤ n := List.drop_eq_nil_iff.1 hls
    refine ⟨[], ?_, rfl⟩
    cases waiting with
    | none => exact .noOpener (first_none_over hover)
    | some o => exact .noCloser (first_none_over hover)
  | cons l ls ih =>
    have hl : doc.lines[n]? = some l := by
      rw [← List.head?_drop, hls]
      rfl
    have hrest : doc.lines.drop (n + 1) = ls := by
      rw [← List.drop_drop, hls]
      rfl
    obtain ⟨ps, waiting', hregions, hpending, hreads⟩ := tells_line hd hl waiting
    obtain ⟨qs, hqs, hregions'⟩ := ih (n + 1) hrest waiting'
    refine ⟨ps ++ qs, hreads qs hqs, ?_⟩
    simp only [lines_cons hd, List.map_append, ← hregions, ← hregions', hpending, Document.offsetOf_succ hl]
    rfl

end Scan

open Scan

theorem scan_reads {d : Delimiters} (hd : d.NeverEmpty) (doc : Document) :
    ∃ ps, Reads d doc.lines ⟨0, 0⟩ none ps ∧ (scan d doc).regions = ps.map (regionOf doc) := by
  obtain ⟨ps, hps, hregions⟩ := reads_lines hd 0 doc.lines (List.drop_zero ..) none
  exact ⟨ps, hps, hregions⟩

/-- The region starts with the one marker and ends with the other, which do not overlap. It is a block just
where the document has a line start. -/
structure Region.Marked (doc : Document) (opener closer : List Char) (r : Region) : Prop where
  text : ∃ body, doc.slice r.start r.stop = .ok (opener ++ body ++ closer)
  kind : r.kind = .block ↔ (doc.lineAt r.start).bind doc.lineStart = .ok r.start

/-- Where no match is empty, a scan comes to an end, its regions are in order and inside the document, and
they stand between the markers that are read off the lines. -/
theorem scan_marked {d : Delimiters} (hd : d.NeverEmpty) (doc : Document) :
    (scan d doc).endless = false ∧ Region.Ordered 0 doc.length (scan d doc).regions ∧
      ∃ ps, Reads d doc.lines ⟨0, 0⟩ none ps ∧ (scan d doc).regions = ps.map (regionOf doc) ∧
        ∀ p ∈ ps, Region.Marked doc (p.1.text doc.lines) (p.2.text doc.lines) (regionOf doc p) := by
  obtain ⟨hord, hend⟩ := ordered_scan hd doc
  obtain ⟨ps, hps, hregions⟩ := scan_reads hd doc
  refine ⟨hend, hord, ps, hps, hregions, fun p hp => ⟨?_, ?_⟩⟩
  · obtain ⟨body, -, htext⟩ := slice_regionOf (hps.paired (by simp) p hp)
    exact ⟨body, htext⟩
  · obtain ⟨⟨_, hopen, _⟩, _⟩ := hps.paired (by simp) p hp
    exact Marker.kind_eq_block hopen

/-- Characters of several bytes, line breaks of two characters, and a fragment over two lines. -/
def markedDocument : Document := .ofString "é<%* x\r\n%>\r\n<% y %>"

theorem scan_marked_document : Delimiters.standard.NeverEmpty ∧
    ∃ ps, Reads .standard markedDocument.lines ⟨0, 0⟩ none ps ∧
      ps.map (regionOf markedDocument) = [⟨1, 10, .inline⟩, ⟨12, 19, .block⟩] ∧
      ∀ p ∈ ps, Region.Marked markedDocument (p.1.text markedDocument.lines) (p.2.text markedDocument.lines)
        (regionOf markedDocument p) := by
  have hregions : (scan .standard markedDocument).regions = [⟨1, 10, .inline⟩, ⟨12, 19, .block⟩] := by cbv
  obtain ⟨-, -, ps, hps, hmap, hmarked⟩ := scan_marked Delimiters.neverEmpty_standard markedDocument
  exact ⟨Delimiters.neverEmpty_standard, ps, hps, hmap.symm.trans hregions, hmarked⟩

end Scriptlet
