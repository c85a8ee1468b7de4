import Scriptlet.Proofs.LineStarts

/-!
# Edits are splices

An edit that names characters of a document puts a text in their place, any other is refused and changes nothing
(`Edit.make_eq`); so a list of edits is a list of splices with the refused ones left out (`Edit.edited_makeAll`). Seen
from the text as `u ++ w ++ v` an edit replaces `w` (`Edit.make_split`), and so what puts `w` back undoes it.

Line breaks may come together or fall apart on both sides of a splice, so the lines of the new text are not those of
the parts. But line numbers are read from the left: before the edit they stay (`Document.lineAt_append_left`), and
behind it they all move by what they move by at its end (`Document.lineAt_append_right`).
-/

namespace Scriptlet

/-- A change of a document. -/
inductive Edit where
  | insert (offset : Nat) (text : List Char)
  | delete (start stop : Nat)
  deriving DecidableEq, Repr

namespace Edit

/-- The first of the characters that are replaced. -/
def start : Edit → Nat
  | insert offset _ => offset
  | delete start _ => start

/-- The character behind the last of those that are replaced. -/
def stop : Edit → Nat
  | insert offset _ => offset
  | delete _ stop => stop

/-- What replaces them. -/
def text : Edit → List Char
  | insert _ text => text
  | delete .. => []

/-- The characters are there. -/
def Fits (doc : Document) (e : Edit) : Prop := e.start ≤ e.stop ∧ e.stop ≤ doc.length

instance (doc : Document) (e : Edit) : Decidable (e.Fits doc) :=
  inferInstanceAs (Decidable (_ ∧ _))

/-- What is said of an edit that is refused. -/
def refusal : Edit → DocumentError
  | insert offset _ => .invalidOffset offset
  | delete start stop => .invalidRange start stop

/-- The characters that are replaced. -/
def cut (doc : Document) (e : Edit) : List Char := (doc.chars.drop e.start).take (e.stop - e.start)

/-- The document with the characters replaced. -/
def spliced (doc : Document) (e : Edit) : Document :=
  ⟨doc.chars.take e.start ++ e.text ++ doc.chars.drop e.stop⟩

/-- Makes the edit: the text taken out, and the document that there is then. -/
def make (doc : Document) : Edit → Except DocumentError (List Char) × Document
  | insert offset text =>
    match doc.insert offset text with
    | .ok next => (.ok [], next)
    | .error e => (.error e, doc)
  | delete start stop =>
    match doc.delete start stop with
    | .ok (cut, next) => (.ok cut, next)
    | .error e => (.error e, doc)

/-- Makes the edits one after the other. -/
def makeAll (doc : Document) : List Edit → List (Except DocumentError (List Char)) × Document
  | [] => ([], doc)
  | e :: es =>
    let first := e.make doc
    let rest := makeAll first.2 es
    (first.1 :: rest.1, rest.2)

/-- The edits one after the other are refused where they do not fit, and splice the text where they do. -/
inductive Edited : Document → List Edit → List (Except DocumentError (List Char)) → Document → Prop
  | done (doc) : Edited doc [] [] doc
  | refused {doc e es answers last} (h : ¬e.Fits doc) (rest : Edited doc es answers last) :
    Edited doc (e :: es) (.error e.refusal :: answers) last
  | spliced {doc e es answers last} (h : e.Fits doc) (rest : Edited (e.spliced doc) es answers last) :
    Edited doc (e :: es) (.ok (e.cut doc) :: answers) last

/-! ### One edit -/

variable {doc : Document} {e : Edit}

@[simp] theorem cut_insert (doc : Document) (offset : Nat) (text : List Char) : (insert offset text).cut doc = [] := by
  simp [cut, start, stop]

theorem make_eq (doc : Document) (e : Edit) :
    e.make doc = if e.Fits doc then (.ok (e.cut doc), e.spliced doc) else (.error e.refusal, doc) := by
  cases e with
  | insert offset text =>
    by_cases h : offset ≤ doc.length
    · have hfits : (insert offset text).Fits doc := ⟨Nat.le_refl _, h⟩
      rw [if_pos hfits, cut_insert, make, Document.insert, if_pos h]
      rfl
    · have hfits : ¬(insert offset text).Fits doc := fun hfits => h hfits.2
      rw [if_neg hfits, make, Document.insert, if_neg h]
      rfl
  | delete first last =>
    by_cases h : first ≤ last ∧ last ≤ doc.length
    · have hfits : (delete first last).Fits doc := h
      rw [if_pos hfits, make, Document.delete, Document.slice, if_pos h, spliced, text, List.append_nil]
      rfl
    · have hfits : ¬(delete first last).Fits doc := h
      rw [if_neg hfits, make, Document.delete, Document.slice, if_neg h]
      rfl

theorem make_of_fits (h : e.Fits doc) : e.make doc = (.ok (e.cut doc), e.spliced doc) := by
  rw [make_eq, if_pos h]

/-- An edit that fits divides the text into what is before it, what it replaces and what is behind it. -/
theorem Fits.split (h : e.Fits doc) : ∃ u v, doc = ⟨u ++ e.cut doc ++ v⟩ ∧ e.spliced doc = ⟨u ++ e.text ++ v⟩ ∧
    e.start = u.length ∧ e.stop = u.length + (e.cut doc).length := by
  obtain ⟨hle, hstop⟩ := h
  have hlen : doc.chars.length = doc.length := rfl
  refine ⟨doc.chars.take e.start, doc.chars.drop e.stop, ?_, rfl, ?_, ?_⟩
  · have hcut : doc.chars.take e.start ++ e.cut doc = doc.chars.take e.stop := by
      rw [cut, ← List.take_add, Nat.add_sub_cancel' hle]
    rw [hcut, List.take_append_drop]
  · rw [List.length_take]
    omega
  · rw [cut, List.length_take, List.length_take, List.length_drop]
    omega

/-- Where the characters an edit names are `w`, its text takes their place. -/
theorem make_split (u w v : List Char) (hstart : e.start = u.length) (hstop : e.stop = u.length + w.length) :
    e.make ⟨u ++ w ++ v⟩ = (.ok w, ⟨u ++ e.text ++ v⟩) := by
  have hfits : e.Fits ⟨u ++ w ++ v⟩ := by
    refine ⟨by omega, ?_⟩
    rw [Document.length, List.length_append, List.length_append]
    omega
  have hcut : e.cut ⟨u ++ w ++ v⟩ = w := by
    rw [cut, hstart, hstop, List.append_assoc, List.drop_left, Nat.add_sub_cancel_left, List.take_left]
  have hdrop : (u ++ w ++ v).drop e.stop = v := by
    rw [hstop, ← List.length_append, List.drop_left]
  rw [make_of_fits hfits, hcut, spliced, hdrop, hstart, List.append_assoc u w v, List.take_left]

/-! ### Edits one after the other -/

theorem edited_makeAll (doc : Document) (edits : List Edit) :
    Edited doc edits (makeAll doc edits).1 (makeAll doc edits).2 := by
  induction edits generalizing doc with
  | nil => exact .done doc
  | cons e es ih =>
    rw [makeAll, make_eq]
    by_cases h : e.Fits doc
    · rw [if_pos h]
      exact .spliced h (ih _)
    · rw [if_neg h]
      exact .refused h (ih _)

/-- Putting back what an edit took out, in place of what it put in, undoes it. -/
theorem makeAll_undo {e' : Edit} (h : e.Fits doc) (hstart : e'.start = e.start)
    (hstop : e'.stop = e.start + e.text.length) (htext : e'.text = e.cut doc) :
    makeAll doc [e, e'] = ([.ok (e.cut doc), .ok e.text], doc) := by
  obtain ⟨u, v, hdoc, hspliced, hu, -⟩ := h.split
  have hback := make_split (e := e') u e.text v (by rw [hstart, hu]) (by rw [hstop, hu])
  rw [← hspliced, htext, ← hdoc] at hback
  simp only [makeAll, make_of_fits h, hback]

end Edit

/-! ### Line numbers -/

namespace Document
variable {c n k : Nat}

theorem lineAt_of_le {doc : Document} (h : c ≤ doc.length) :
    doc.lineAt c = .ok (doc.lineStarts.countP (· ≤ c) - 1) := by
  rw [lineAt, if_pos h, List.countP_eq_length_filter]

/-- What comes behind makes no difference to the line of a character. -/
theorem lineAt_append_left {u : List Char} (v w : List Char) (h : c < u.length) :
    lineAt ⟨u ++ v⟩ c = lineAt ⟨u ++ w⟩ c := by
  have hle : ∀ v : List Char, c ≤ length ⟨u ++ v⟩ := by
    intro v
    rw [length, List.length_append]
    omega
  have hp : ∀ t, decide (t ≤ c) = true → t < u.length := by
    intro t ht
    have := of_decide_eq_true ht
    omega
  rw [lineAt_of_le (hle v), lineAt_of_le (hle w), List.countP_eq_length_filter, List.countP_eq_length_filter,
    filter_lineStarts_append hp, filter_lineStarts_append hp]

/-- Behind the beginning of a text lines start where they do in the rest. -/
theorem filter_lineStarts_behind (u v : List Char) (j : Nat) :
    (lineStarts ⟨u ++ v⟩).filter (fun t => u.length < t ∧ t ≤ u.length + j) =
      ((lineStarts ⟨v⟩).filter fun t => 0 < t ∧ t ≤ j).map (u.length + ·) := by
  have hmap := List.pairwise_map.2 (((pairwise_lineStarts ⟨v⟩).filter fun t => 0 < t ∧ t ≤ j).imp
    fun {a b} hlt => Nat.add_lt_add_left hlt u.length)
  refine ((pairwise_lineStarts _).filter _).eq_of_mem_iff hmap fun {t} => ?_
  have hsame : ∀ i, (u ++ v)[u.length + i]? = v[i]? := by
    intro i
    rw [List.getElem?_append_right (Nat.le_add_right ..), Nat.add_sub_cancel_left]
  simp only [List.mem_filter, List.mem_map, mem_lineStarts, decide_eq_true_iff]
  constructor
  · rintro ⟨hstart, hlt, hle⟩
    rcases hstart with rfl | ⟨i, d, hd, hends, rfl⟩
    · omega
    obtain ⟨i, rfl⟩ : ∃ i', i = u.length + i' := ⟨i - u.length, by omega⟩
    rw [hsame] at hd
    rw [Nat.add_assoc, hsame] at hends
    exact ⟨i + 1, ⟨.inr ⟨i, d, hd, hends, rfl⟩, by omega, by omega⟩, by omega⟩
  · rintro ⟨s, ⟨hstart, hpos, hle⟩, rfl⟩
    rcases hstart with rfl | ⟨i, d, hd, hends, rfl⟩
    · omega
    refine ⟨.inr ⟨u.length + i, d, ?_, ?_, by omega⟩, by omega, by omega⟩
    · rw [hsame, hd]
    · rw [Nat.add_assoc, hsame, hends]

theorem countP_le_add (ts : List Nat) (a j : Nat) :
    ts.countP (· ≤ a + j) = ts.countP (· ≤ a) + ts.countP (fun t => a < t ∧ t ≤ a + j) := by
  induction ts with
  | nil => rfl
  | cons t ts ih =>
    simp only [List.countP_cons, decide_eq_true_iff]
    split <;> split <;> split <;> omega

/-- The number of a line is that of the line in which the rest of the text begins and that within the rest. -/
theorem lineAt_append_right {u v : List Char} (hn : lineAt ⟨u ++ v⟩ u.length = .ok n) (hk : lineAt ⟨v⟩ c = .ok k) :
    lineAt ⟨u ++ v⟩ (u.length + c) = .ok (n + k) := by
  have hlen : length ⟨u ++ v⟩ = u.length + length ⟨v⟩ := List.length_append
  have hc : c ≤ length ⟨v⟩ := by
    refine Nat.le_of_not_lt fun hlt => ?_
    rw [lineAt, if_neg (Nat.not_le.2 hlt)] at hk
    cases hk
  rw [lineAt_of_le (by omega)] at hn ⊢
  rw [lineAt_of_le hc] at hk
  cases hn
  cases hk
  have hpos : 0 < (lineStarts ⟨u ++ v⟩).countP (· ≤ u.length) :=
    List.countP_pos_iff.2 ⟨0, zero_mem_lineStarts _, by simp⟩
  have hzero : (lineStarts ⟨v⟩).countP (· ≤ 0) = 1 := by
    have hfilter : (lineStarts ⟨v⟩).filter (· ≤ 0) = [0] := by
      refine ((pairwise_lineStarts _).filter _).eq_of_mem_iff (List.pairwise_singleton ..) fun {t} => ?_
      rw [List.mem_filter, List.mem_singleton, decide_eq_true_iff, Nat.le_zero]
      exact ⟨fun h => h.2, fun h => ⟨h ▸ zero_mem_lineStarts _, h⟩⟩
    rw [List.countP_eq_length_filter, hfilter, List.length_singleton]
  have hbehind := congrArg List.length (filter_lineStarts_behind u v c)
  rw [List.length_map, ← List.countP_eq_length_filter, ← List.countP_eq_length_filter] at hbehind
  have hv := countP_le_add (lineStarts ⟨v⟩) 0 c
  rw [Nat.zero_add, hzero] at hv
  rw [countP_le_add, hbehind, hv]
  congr 1
  omega

open Edit

/-- Edits of a document are splices that can be taken back, and change line numbers only from where they are made. -/
structure Edits (doc : Document) : Prop where
  /-- An edit is refused just if it is of characters that are not there. -/
  edited : ∀ edits, Edited doc edits (makeAll doc edits).1 (makeAll doc edits).2
  insert_delete : ∀ i s, i ≤ doc.length →
    makeAll doc [.insert i s, .delete i (i + s.length)] = ([.ok [], .ok s], doc)
  delete_insert : ∀ a b, a ≤ b → b ≤ doc.length →
    ∃ cut, makeAll doc [.delete a b, .insert a cut] = ([.ok cut, .ok []], doc)
  before : ∀ (e : Edit) c, e.Fits doc → c < e.start → ∃ n, doc.lineAt c = .ok n ∧ (e.make doc).2.lineAt c = .ok n
  /-- Behind the edit all line numbers move by the same. -/
  behind : ∀ (e : Edit) c, e.Fits doc → e.stop ≤ c → c ≤ doc.length → ∃ n n' k,
    doc.lineAt e.stop = .ok n ∧ doc.lineAt c = .ok (n + k) ∧
      (e.make doc).2.lineAt (e.start + e.text.length) = .ok n' ∧
      (e.make doc).2.lineAt (e.start + e.text.length + (c - e.stop)) = .ok (n' + k)

/-- All documents are edited in this way. -/
theorem edits_exact (doc : Document) : doc.Edits where
  edited := edited_makeAll doc
  insert_delete i s hi := by
    have hfits : (Edit.insert i s).Fits doc := ⟨Nat.le_refl _, hi⟩
    have hundo : makeAll doc [.insert i s, .delete i (i + s.length)] = _ :=
      makeAll_undo hfits rfl rfl (cut_insert ..).symm
    rwa [cut_insert] at hundo
  delete_insert a b hab hb := by
    have hfits : (Edit.delete a b).Fits doc := ⟨hab, hb⟩
    exact ⟨_, makeAll_undo hfits rfl rfl rfl⟩
  before e c hfits hc := by
    obtain ⟨u, v, hdoc, hspliced, hu, hw⟩ := hfits.split
    rw [make_of_fits hfits, hspliced]
    generalize e.cut doc = w at hdoc hw
    have hle : c ≤ doc.length := by
      have := hfits.1
      have := hfits.2
      omega
    obtain ⟨n, hn⟩ := doc.exists_lineAt hle
    refine ⟨n, hn, ?_⟩
    rw [← hn, hdoc, List.append_assoc, List.append_assoc]
    exact lineAt_append_left _ _ (by omega)
  behind e c hfits hstop hc := by
    obtain ⟨u, v, hdoc, hspliced, hu, hw⟩ := hfits.split
    rw [make_of_fits hfits, hspliced]
    generalize e.cut doc = w at hdoc hw
    have hstop' : e.stop = (u ++ w).length := by rw [hw, List.length_append]
    have hend : e.start + e.text.length = (u ++ e.text).length := by rw [hu, List.length_append]
    have hlen : ∀ x : List Char, length ⟨x ++ v⟩ = x.length + length ⟨v⟩ := fun x => List.length_append
    have hlen' := hlen (u ++ w)
    rw [← hdoc] at hlen'
    obtain ⟨j, rfl⟩ : ∃ j, c = (u ++ w).length + j := ⟨c - (u ++ w).length, by omega⟩
    obtain ⟨k, hk⟩ := exists_lineAt ⟨v⟩ (show j ≤ length ⟨v⟩ by omega)
    have hseam : ∀ x : List Char, ∃ n, lineAt ⟨x ++ v⟩ x.length = .ok n := fun x =>
      exists_lineAt _ (by rw [hlen]; omega)
    obtain ⟨n, hn⟩ := hseam (u ++ w)
    obtain ⟨n', hn'⟩ := hseam (u ++ e.text)
    refine ⟨n, n', k, ?_, ?_, ?_, ?_⟩
    · rw [hdoc, hstop', hn]
    · rw [hdoc, lineAt_append_right hn hk]
    · rw [hend, hn']
    · rw [hend, hstop', Nat.add_sub_cancel_left, lineAt_append_right hn' hk]

-- A line break falls apart when a text is put inside of it, and there is a line more from there on.
example : lineStarts ⟨['a', '\r', '\n', 'b']⟩ = [0, 3] ∧
    lineStarts ((Edit.insert 2 ['c']).make ⟨['a', '\r', '\n', 'b']⟩).2 = [0, 2, 4] := by decide

end Document

end Scriptlet
