import Mathlib
import Scriptlet.Proofs.EmptyMatches
import Scriptlet.Proofs.ScanOrder

/-!
# Delimiters that have been checked

Delimiters are refused when they match the empty text. That rules out empty matches everywhere as far as
no assertion tells the empty text from other places (`Settled`): then every search and every scan goes on
to its end (`checked_goes_on`). The assertions that do are those that a word begins or ends
(`holds_none_eq_false`), and a delimiter of one of them alone passes the check (`checked_wordEdge`).
-/

namespace Scriptlet

theorem Assertion.holds_none_eq_false (a : Assertion) : a.holds ⟨none, none⟩ = false ↔
    ∃ ascii, a = .wordEdge ascii ∨ a = .wordStart ascii ∨ a = .wordEnd ascii := by
  cases a <;> simp [holds, inWord]

namespace Pattern
variable {p : Pattern} {here there : Place}

theorem readsSomething_eq_false (h : p.silent here = true) : p.readsSomething = false := by
  induction p with
  | empty => rfl
  | literal cs => simpa [silent, readsSomething] using h
  | one s => cases h
  | assert a => rfl
  | group p hp => exact hp h
  | seq p q hp hq =>
    obtain ⟨h₁, h₂⟩ := Bool.and_eq_true_iff.1 h
    rw [readsSomething, hp h₁, hq h₂]
    rfl
  | alt p q hp hq =>
    rw [readsSomething, Bool.and_eq_false_iff]
    exact (Bool.or_eq_true_iff.1 h).imp hp hq
  | repeated greedy lo hi p hp =>
    rw [readsSomething, Bool.and_eq_false_iff]
    rcases Bool.or_eq_true_iff.1 h with h | h
    · exact .inl (by simpa using h)
    · exact .inr (hp h)

/-- Where all assertions hold, nothing needs to be read that need not be elsewhere. -/
theorem silent_of_holds (hholds : ∀ a ∈ p.assertions, a.holds there = true) (h : p.silent here = true) :
    p.silent there = true := by
  induction p with
  | empty => rfl
  | literal cs => exact h
  | one s => cases h
  | assert a => exact hholds a (List.mem_singleton_self a)
  | group p hp => exact hp hholds h
  | seq p q hp hq =>
    obtain ⟨hpa, hqa⟩ := List.forall_mem_append.1 hholds
    obtain ⟨h₁, h₂⟩ := Bool.and_eq_true_iff.1 h
    exact Bool.and_eq_true_iff.2 ⟨hp hpa h₁, hq hqa h₂⟩
  | alt p q hp hq =>
    obtain ⟨hpa, hqa⟩ := List.forall_mem_append.1 hholds
    exact Bool.or_eq_true_iff.2 ((Bool.or_eq_true_iff.1 h).imp (hp hpa) (hq hqa))
  | repeated greedy lo hi p hp =>
    exact Bool.or_eq_true_iff.2 ((Bool.or_eq_true_iff.1 h).imp_right (hp hholds))

/-- The empty text tells of all places: every match reads something anyway, or none of the assertions
fails where there are no characters, as the edges of words do. -/
def Settled (p : Pattern) : Prop :=
  p.readsSomething = true ∨ ∀ a ∈ p.assertions, a.holds ⟨none, none⟩ = true

/-- A settled pattern that does not match the empty text has no empty match. -/
theorem Settled.pos (hp : p.Settled) (hempty : p.matchesEmpty = false) {c : Text.Cursor} {k n : Nat}
    (h : p.find? c = some (k, n)) : 0 < n := by
  refine Nat.pos_of_ne_zero fun hn => ?_
  subst hn
  have hsilent := silent_of_find? h
  rcases hp with hreads | hholds
  · rw [readsSomething_eq_false hsilent] at hreads
    cases hreads
  · rw [matchesEmpty_eq, silent_of_holds hholds hsilent] at hempty
    cases hempty

end Pattern

namespace Delimiters
variable {d : Delimiters}

/-- Neither delimiter matches the empty text. -/
structure Checked (d : Delimiters) : Prop where
  opener : d.opener.matchesEmpty = false
  closer : d.closer.matchesEmpty = false

theorem readPattern_eq_ok {text : String} {p : Pattern} :
    readPattern text = .ok p ↔ Pattern.ofText? text = some p ∧ p.matchesEmpty = false := by
  rw [readPattern]
  cases hread : Pattern.ofText? text with
  | none => simp
  | some q =>
    cases hempty : q.matchesEmpty with
    | false =>
      simp only [hempty, Bool.false_eq_true, ↓reduceIte, Except.ok.injEq, Option.some.injEq]
      exact ⟨fun heq => ⟨heq, heq ▸ hempty⟩, And.left⟩
    | true =>
      simp only [hempty, ↓reduceIte, Option.some.injEq, reduceCtorEq, false_iff]
      rintro ⟨rfl, hp⟩
      cases hempty.symm.trans hp

/-- Accepted is what the texts stand for, once it has been checked. -/
theorem ofTexts_eq_ok {opener closer : String} : ofTexts opener closer = .ok d ↔
    Pattern.ofText? opener = some d.opener ∧ Pattern.ofText? closer = some d.closer ∧ d.Checked := by
  have hreads : ofTexts opener closer = .ok d ↔
      readPattern opener = .ok d.opener ∧ readPattern closer = .ok d.closer := by
    rw [ofTexts]
    cases readPattern opener <;> cases readPattern closer <;> cases d <;> simp [Except.bind, Except.map]
  simp only [hreads, readPattern_eq_ok]
  constructor
  · rintro ⟨⟨ho, hopener⟩, hc, hcloser⟩
    exact ⟨ho, hc, hopener, hcloser⟩
  · rintro ⟨ho, hc, hopener, hcloser⟩
    exact ⟨⟨ho, hopener⟩, hc, hcloser⟩

theorem Checked.neverEmpty (h : d.Checked) (ho : d.opener.Settled) (hc : d.closer.Settled) : d.NeverEmpty := by
  rintro c k n (hfind | hfind)
  · exact ho.pos h.opener hfind
  · exact hc.pos h.closer hfind

/-- A range that is found has bytes if the match has characters. -/
theorem findInLine_lt {p : Pattern} {line : List Char} {start a b : Nat}
    (hp : ∀ c k n, p.find? c = some (k, n) → 0 < n) (h : findInLine p line start = .ok (some (a, b))) :
    a < b := by
  unfold findInLine at h
  split at h
  · obtain ⟨⟨k, n⟩, hfind, hrange⟩ := Option.map_eq_some_iff.1 (Except.ok.inj h)
    cases hrange
    have hn := hp _ _ _ hfind
    have hle := Pattern.find?_le hfind
    have hlen := congrArg List.length
      (Text.Cursor.advance_text (Text.charsStartingBefore line start) (Text.Cursor.start line))
    rw [Text.Cursor.length_text, Text.Cursor.text_start] at hlen
    refine Nat.lt_of_lt_of_le (Text.byteOffset_lt_succ (by omega)) (Text.byteOffset_mono line ?_)
    omega
  · split at h
    · cases h
    · cases h

/-- Whatever is accepted has been checked. Settled delimiters that have been checked are never found as an
empty range, and so every scan comes to an end and finds regions with characters. -/
theorem checked_goes_on (ho : d.opener.Settled) (hc : d.closer.Settled) :
    (∀ opener closer, ofTexts opener closer = .ok d → d.Checked) ∧
    (d.Checked →
      (∀ line start a b, d.findOpen line start = .ok (some (a, b)) ∨ d.findClose line start = .ok (some (a, b)) →
        a < b) ∧
      ∀ doc, (scan d doc).endless = false ∧ ∀ r ∈ (scan d doc).regions, r.start < r.stop) := by
  refine ⟨fun opener closer haccepted => (ofTexts_eq_ok.1 haccepted).2.2, fun hchecked => ?_⟩
  have hd := hchecked.neverEmpty ho hc
  constructor
  · rintro line start a b (hfind | hfind)
    · exact findInLine_lt (fun c k n hk => hd c k n (.inl hk)) hfind
    · exact findInLine_lt (fun c k n hk => hd c k n (.inr hk)) hfind
  · intro doc
    obtain ⟨hord, hend⟩ := ordered_scan hd doc
    exact ⟨hend, fun r hr => (hord.within r hr).2.1⟩

/-- An opener that ends at the edge of a word, and a closer at the start of a line or behind a minus. -/
def edged : Delimiters where
  opener := .seq (.literal ['<', '%']) (.assert (.wordEdge false))
  closer := .alt (.seq (.assert .lineStart) (.literal ['%', '>'])) (.literal ['-', '%', '>'])

theorem checked_goes_on_edged : ofTexts "<%\\b" "(?m)^%>|-%>" = .ok edged ∧
    edged.opener.Settled ∧ edged.closer.Settled ∧ edged.Checked ∧
    (∀ line start a b,
      edged.findOpen line start = .ok (some (a, b)) ∨ edged.findClose line start = .ok (some (a, b)) → a < b) ∧
    ∀ doc, (scan edged doc).endless = false ∧ ∀ r ∈ (scan edged doc).regions, r.start < r.stop := by
  have haccepted : ofTexts "<%\\b" "(?m)^%>|-%>" = .ok edged := by rfl
  have hopener : edged.opener.Settled := .inl rfl
  have hcloser : edged.closer.Settled := .inr (by decide)
  obtain ⟨hchecked, hgoes⟩ := checked_goes_on hopener hcloser
  have hedged := hchecked _ _ haccepted
  exact ⟨haccepted, hopener, hcloser, hedged, hgoes hedged⟩

/-- The edges of words as delimiters. -/
def wordEdges : Delimiters := ⟨.assert (.wordEdge false), .assert (.wordEdge false)⟩

/-- They pass the check, and are found as empty ranges at which a scan stays for ever. -/
theorem checked_wordEdge : ofTexts "\\b" "\\b" = .ok wordEdges ∧
    wordEdges.findOpen ['a'] 0 = .ok (some (0, 0)) ∧ (scan wordEdges (.ofString "a")).endless = true := by
  refine ⟨by rfl, by rfl, by cbv⟩

end Delimiters

end Scriptlet
