import Scriptlet.Proofs.LineBreaks
import Scriptlet.Proofs.ScanOrder
import Scriptlet.Proofs.StandardSearch
import Scriptlet.View

/-!
# The standard scan without lines

`LineFree.scanFrom` reads the whole text from left to right: the next opener, the next closer behind it,
and on from there. It knows neither lines nor patterns. Scanning line by line for the standard
delimiters gives the same (`scan_standard`): no pair of characters spans a break, so the next pair of
the text is the next in the line or, where the line has none, the next behind it (`Text.Sits.next_eq`);
and a pair is first in its line just if a break or nothing comes before it (`LineFree.kindAt_line`).
-/

namespace Scriptlet

/-! ### A line in its text -/

theorem Text.Cursor.getElem?_after (c : Text.Cursor) (i : Nat) : c.after[i]? = c.text[c.column + i]? := by
  rw [text, column, List.getElem?_append_right (by simp)]
  simp

namespace Text.Sits
variable {text : List Char} {base : Nat} {c : Cursor} {x y : Char}

theorem getElem?_after (h : Sits text c.text base) {i : Nat} (hi : i < c.after.length) :
    text[base + c.column + i]? = c.after[i]? := by
  have hlen := c.length_text
  rw [c.getElem?_after, Nat.add_assoc, h.chars _ (by omega)]

theorem isAt_after (h : Sits text c.text base) {i : Nat} (hi : i + 1 < c.after.length) :
    Pair.isAt x y text (base + c.column + i) = Pair.isAt x y c.after i := by
  rw [Pair.isAt, Pair.isAt, h.getElem?_after (by omega), Nat.add_assoc (base + c.column) i 1,
    h.getElem?_after hi]

/-- No pair begins with the last character of a line. -/
theorem isAt_last (h : Sits text c.text base) (hx : isBreak x = false) {i : Nat} (hi : base ≤ i)
    (hlast : i + 1 = base + c.text.length) : Pair.isAt x y text i = false := by
  refine Bool.eq_false_iff.2 fun hat => ?_
  obtain ⟨hat₀, -⟩ := Pair.isAt_iff.1 hat
  have hlt := Pair.lt_of_isAt hat
  rcases h.stop with hstop | ⟨-, b, hb, hbreak⟩
  · omega
  · have hget := h.chars (i - base) (by omega)
    rw [Nat.add_sub_cancel' hi, hat₀, show i - base = c.text.length - 1 by omega,
      ← List.getLast?_eq_getElem?, hb] at hget
    cases hget
    rw [hx] at hbreak
    cases hbreak

/-- The next pair in the text is the next in the line, or the next behind it. -/
theorem next_eq (h : Sits text c.text base) (hx : isBreak x = false) :
    Pair.next x y text (base + c.column) =
      ((Pair.next x y c.after 0).map (base + c.column + ·)).or (Pair.next x y text (base + c.text.length)) := by
  have hlen := c.length_text
  cases hnext : Pair.next x y c.after 0 with
  | some k =>
    obtain ⟨hat, -, hleast⟩ := Pair.next_eq_some.1 hnext
    have hlt := Pair.lt_of_isAt hat
    rw [Option.map_some, Option.some_or]
    refine Pair.next_eq_some.2 ⟨by rw [h.isAt_after hlt]; exact hat, by omega, fun m hm hmk => ?_⟩
    obtain ⟨i, rfl⟩ := Nat.exists_eq_add_of_le hm
    rw [h.isAt_after (by omega)]
    exact hleast i (Nat.zero_le i) (by omega)
  | none =>
    have hmiss := Pair.next_eq_none.1 hnext
    -- no pair begins in what is left of the line
    have hline : ∀ m, base + c.column ≤ m → m < base + c.text.length → Pair.isAt x y text m = false := by
      intro m hm hlt
      rcases Nat.lt_or_ge (m + 1) (base + c.text.length) with hlt' | hge
      · obtain ⟨i, rfl⟩ := Nat.exists_eq_add_of_le hm
        rw [h.isAt_after (by omega)]
        exact hmiss i (Nat.zero_le i)
      · exact h.isAt_last hx (by omega) (by omega)
    rw [Option.map_none, Option.none_or]
    exact Pair.next_eq_of_miss (by omega) hline

end Text.Sits

/-! ### The reference -/

namespace LineFree

/-- Where the closer of an opener is searched for: behind the two characters and a star. -/
def bodyStart (text : List Char) (i : Nat) : Nat :=
  if text[i + 2]? = some '*' then i + 3 else i + 2

/-- The kind of a region that starts at the offset. -/
def kindAt (text : List Char) (i : Nat) : RegionKind :=
  if i = 0 ∨ text[i - 1]? = some '\n' ∨ text[i - 1]? = some '\r' then .block else .inline

theorem le_bodyStart (text : List Char) (i : Nat) : i + 2 ≤ bodyStart text i := by
  rw [bodyStart]
  split <;> omega

/-- The regions from an offset on, and the opener left without a closer. -/
def scanFrom (text : List Char) (p : Nat) : List Region × Option Nat :=
  match _hi : Pair.next '<' '%' text p with
  | none => ([], none)
  | some i =>
    match _hj : Pair.next '%' '>' text (bodyStart text i) with
    | none => ([], some i)
    | some j =>
      let rest := scanFrom text (j + 2)
      (⟨i, j + 2, kindAt text i⟩ :: rest.1, rest.2)
termination_by text.length - p
decreasing_by
  have hi := Pair.next_eq_some.1 _hi
  have hj := Pair.next_eq_some.1 _hj
  have := Pair.lt_of_isAt hj.1
  have := le_bodyStart text i
  omega

/-- Regions found before the rest. -/
def behind (rs : List Region) (rest : List Region × Option Nat) : List Region × Option Nat :=
  (rs ++ rest.1, rest.2)

theorem behind_nil (rest : List Region × Option Nat) : behind [] rest = rest := rfl

theorem behind_append (rs ss : List Region) (rest : List Region × Option Nat) :
    behind (rs ++ ss) rest = behind rs (behind ss rest) := by
  simp [behind]

/-- As `scanFrom`, with an opener that may still wait for its closer. -/
def resume (text : List Char) (p : Nat) : Option Scan.Pending → List Region × Option Nat
  | none => scanFrom text p
  | some ⟨start, kind⟩ =>
    match Pair.next '%' '>' text p with
    | none => ([], some start)
    | some j => behind [⟨start, j + 2, kind⟩] (scanFrom text (j + 2))

theorem resume_some (text : List Char) (p : Nat) (q : Scan.Pending) : resume text p (some q) =
    match Pair.next '%' '>' text p with
    | none => ([], some q.start)
    | some j => behind [⟨q.start, j + 2, q.kind⟩] (resume text (j + 2) none) := rfl

theorem scanFrom_eq (text : List Char) (p : Nat) : scanFrom text p =
    match Pair.next '<' '%' text p with
    | none => ([], none)
    | some i => resume text (bodyStart text i) (some ⟨i, kindAt text i⟩) := by
  rw [scanFrom]
  cases Pair.next '<' '%' text p with
  | none => rfl
  | some i =>
    simp only [resume]
    cases Pair.next '%' '>' text (bodyStart text i) <;> rfl

/-! ### One line -/

section
open Text (Sits isBreak)
variable {text : List Char} {base : Nat} {c : Text.Cursor}

theorem kindAt_line (h : Sits text c.text base) {k : Nat} (hk : c.after[k]? = some '<') :
    kindAt text (base + (c.column + k)) = if c.column + k = 0 then .block else .inline := by
  rw [c.getElem?_after] at hk
  have hlt := (List.getElem?_eq_some_iff.1 hk).1
  rw [kindAt]
  by_cases hfirst : c.column + k = 0
  · rw [if_pos hfirst, if_pos]
    rw [hfirst, Nat.add_zero]
    rcases h.start with hbase | ⟨b, hb, hbreak⟩
    · exact .inl hbase
    · rw [isBreak, Bool.or_eq_true, beq_iff_eq, beq_iff_eq] at hbreak
      rcases hbreak with rfl | rfl
      · exact .inr (.inl hb)
      · exact .inr (.inr hb)
  · rw [if_neg hfirst, if_neg]
    obtain ⟨i, hi⟩ := Nat.exists_eq_add_one_of_ne_zero hfirst
    have hprev : text[base + (c.column + k) - 1]? = c.text[i]? := by
      rw [hi, ← Nat.add_assoc, Nat.add_sub_cancel, h.chars i (by omega)]
    rw [hi] at hk
    -- behind a break inside the line there would be a line feed
    have hno : ∀ b, c.text[i]? = some b → isBreak b = false := by
      intro b hb
      refine Bool.eq_false_iff.2 fun hbreak => ?_
      have := h.inside i b '<' hb hbreak hk
      exact absurd this (by decide)
    rw [hprev]
    rintro (h₀ | hb | hb)
    · omega
    · cases hno _ hb
    · cases hno _ hb

theorem bodyStart_line (h : Sits text c.text base) {k : Nat} (hk : Pair.isAt '<' '%' c.after k = true) :
    bodyStart text (base + c.column + k) =
      base + c.column + (k + Delimiters.standardOpenerSize (c.after.drop k)) := by
  have hlen := c.length_text
  have hlt := Pair.lt_of_isAt hk
  have hstar : text[base + c.column + k + 2]? = some '*' ↔ c.after[k + 2]? = some '*' := by
    rcases Nat.lt_or_ge (k + 2) c.after.length with hin | hout
    · rw [Nat.add_assoc (base + c.column) k 2, h.getElem?_after hin]
    · rw [List.getElem?_eq_none hout]
      refine iff_of_false (fun hstar => ?_) (by simp)
      have htext := (List.getElem?_eq_some_iff.1 hstar).1
      rcases h.stop with hstop | ⟨-, b, hb, hbreak⟩
      · omega
      · -- the line ends with the opener, not with a break
        rw [List.getLast?_eq_getElem?, show c.text.length - 1 = c.column + (k + 1) by omega,
          ← c.getElem?_after, (Pair.isAt_iff.1 hk).2] at hb
        cases hb
        cases hbreak
  rw [bodyStart, Delimiters.standardOpenerSize, List.getElem?_drop]
  by_cases hs : c.after[k + 2]? = some '*'
  · rw [if_pos hs, if_pos (hstar.2 hs)]; omega
  · rw [if_neg hs, if_neg (hs ∘ hstar.1)]; omega

/-- What is found in a line comes before what is found behind it. -/
theorem resume_line (h : Sits text c.text base) (pending : Option Scan.Pending) :
    resume text (base + c.column) pending =
      behind (Scan.line .standard base c false pending).regions
        (resume text (base + c.text.length) (Scan.line .standard base c false pending).pending) := by
  revert h
  refine Scan.line_induct Delimiters.neverEmpty_standard base (P := fun c pending f => Sits text c.text base →
    resume text (base + c.column) pending = behind f.regions (resume text (base + c.text.length) f.pending))
    ?_ ?_ ?_ ?_ c pending
  · intro c hfind h
    rw [Delimiters.find?_opener, Option.map_eq_none_iff] at hfind
    show scanFrom text (base + c.column) = behind [] (scanFrom text (base + c.text.length))
    rw [behind_nil, scanFrom_eq text (base + c.column), scanFrom_eq text (base + c.text.length),
      h.next_eq rfl, hfind, Option.map_none, Option.none_or]
  · intro c k n f hfind hn hle ih h
    rw [Delimiters.find?_opener] at hfind
    obtain ⟨k, hnext, heq⟩ := Option.map_eq_some_iff.1 hfind
    cases heq
    have hat := (Pair.next_eq_some.1 hnext).1
    rw [Text.Cursor.advance_text, Text.Cursor.column_advance_of_le hle] at ih
    show scanFrom text (base + c.column) = _
    rw [scanFrom_eq, h.next_eq rfl, hnext, Option.map_some, Option.some_or, ← ih h,
      ← kindAt_line h (Pair.isAt_iff.1 hat).1, ← Nat.add_assoc base c.column k, ← Nat.add_assoc base c.column]
    simp only [bodyStart_line h hat]
  · intro c p hfind h
    rw [Delimiters.find?_closer, Option.map_eq_none_iff] at hfind
    rw [behind_nil, resume_some, resume_some, h.next_eq rfl, hfind, Option.map_none, Option.none_or]
  · intro c p k n f hfind hn hle ih h
    rw [Delimiters.find?_closer] at hfind
    obtain ⟨k, hnext, heq⟩ := Option.map_eq_some_iff.1 hfind
    cases heq
    rw [Text.Cursor.advance_text, Text.Cursor.column_advance_of_le hle] at ih
    rw [resume_some, h.next_eq rfl, hnext, Option.map_some, Option.some_or]
    show behind [⟨p.start, base + c.column + k + 2, p.kind⟩] (resume text (base + c.column + k + 2) none) =
      behind ([⟨p.start, base + (c.column + k + 2), p.kind⟩] ++ f.regions)
        (resume text (base + c.text.length) f.pending)
    rw [behind_append, ← ih h, show base + c.column + k + 2 = base + (c.column + k + 2) by omega]
    rfl

end

/-! ### All lines -/

/-- Behind the text nothing is found. -/
theorem resume_length (text : List Char) (pending : Option Scan.Pending) :
    resume text text.length pending = ([], pending.map (·.start)) := by
  have hnext : ∀ x y, Pair.next x y text text.length = none := by
    intro x y
    simp [Pair.next]
  cases pending with
  | none =>
    show scanFrom text text.length = _
    rw [scanFrom_eq, hnext]
    rfl
  | some p => simp only [resume, hnext]; rfl

theorem resume_lines (before : List Char) {ls : List (List Char)} (pending : Option Scan.Pending)
    (hbefore : before = [] ∨ Text.LastIsBreak before) (h : Text.Lined ls) :
    resume (before ++ ls.flatten) before.length pending =
      ((Scan.lines .standard before.length pending ls).regions,
        (Scan.lines .standard before.length pending ls).pending.map (·.start)) := by
  induction ls generalizing before pending with
  | nil => exact h.elim
  | cons l ls ih =>
    have hline := resume_line (c := .start l) (h.sits hbefore) pending
    rw [Text.Cursor.text_start, Text.Cursor.column_start, Nat.add_zero] at hline
    rw [hline, Scan.lines_cons Delimiters.neverEmpty_standard]
    cases ls with
    | nil =>
      have hend := resume_length (before ++ l)
      rw [List.length_append] at hend
      simp only [List.flatten_cons, List.flatten_nil, List.append_nil, hend, behind, Scan.lines]
    | cons l' ls =>
      have hrest := ih (before ++ l) (Scan.line .standard before.length (.start l) false pending).pending
        (.inr (h.1.lastIsBreak.append before)) h.2
      rw [List.length_append, List.append_assoc, ← List.flatten_cons] at hrest
      rw [hrest]
      rfl

end LineFree

/-- Scanning for the standard delimiters gives what reading the text without regard to lines does, and
tells of the opener that this leaves without a closer. -/
theorem scan_standard (doc : Document) :
    (scan .standard doc).regions = (LineFree.scanFrom doc.chars 0).1 ∧
      View.unterminated (scan .standard doc) =
        ((LineFree.scanFrom doc.chars 0).2.map Event.unterminated).toList ∧
      (scan .standard doc).endless = false := by
  have hscan := LineFree.resume_lines [] none (.inl rfl) (Text.lined_splitLines doc.chars)
  rw [List.nil_append, Text.flatten_splitLines] at hscan
  have hscan : LineFree.scanFrom doc.chars 0 =
      ((scan .standard doc).regions, (scan .standard doc).pending.map (·.start)) := hscan
  rw [hscan]
  refine ⟨rfl, ?_, (ordered_scan Delimiters.neverEmpty_standard doc).2⟩
  cases hp : (scan .standard doc).pending with
  | none => simp [View.unterminated, hp]
  | some p => simp [View.unterminated, hp]

end Scriptlet
