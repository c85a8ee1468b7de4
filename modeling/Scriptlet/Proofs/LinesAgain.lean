import Scriptlet.Proofs.AnyRegions

/-!
# Lines that are decorated again

The builder of decorations remembers the last line it came to and passes over it, and it refuses lines before
the last it took in. Together this lets a line in for a second time just if the blocks come to it, then go back
to a line before it, and from there come straight to it again (`ReturnsTo`), when it is still the furthest.
Blocks that do not do that have no line decorated twice, and those that do have one
(`decorate_distinct_lines`). The invariant of the walk over the lines is `Decorated`.
-/

namespace Scriptlet

/-- After the lines, coming to the line is going on from one before it to one that has been come to already and
that nothing is behind. -/
def ReturnsTo (ts : List Nat) (t : Nat) : Prop :=
  ∃ before u, ts = before ++ [u] ∧ t ∈ before ∧ u < t ∧ ∀ v ∈ before, v ≤ t

/-- One of the lines is returned to. -/
def Returns (ts : List Nat) : Prop :=
  ∃ before t behind, ts = before ++ t :: behind ∧ ReturnsTo before t

theorem not_returns_nil : ¬Returns [] := by
  rintro ⟨before, t, behind, heq, -⟩
  simp at heq

theorem returns_concat {ts : List Nat} {t : Nat} : Returns (ts ++ [t]) ↔ Returns ts ∨ ReturnsTo ts t := by
  constructor
  · rintro ⟨before, t', behind, heq, hreturns⟩
    rcases List.eq_nil_or_concat behind with rfl | ⟨behind, last, rfl⟩
    · obtain ⟨rfl, hlast⟩ := List.append_inj' heq rfl
      cases hlast
      exact .inr hreturns
    · have hsplit : ts ++ [t] = (before ++ t' :: behind) ++ [last] := by simpa using heq
      obtain ⟨rfl, -⟩ := List.append_inj' hsplit rfl
      exact .inl ⟨before, t', behind, rfl, hreturns⟩
  · rintro (⟨before, t', behind, rfl, hreturns⟩ | hreturns)
    · exact ⟨before, t', behind ++ [t], by simp, hreturns⟩
    · exact ⟨ts, t, [], rfl, hreturns⟩

theorem not_returnsTo_last {ts : List Nat} {t : Nat} (hlast : ts.getLast? = some t) : ¬ReturnsTo ts t := by
  rintro ⟨before, u, rfl, -, hlt, -⟩
  rw [List.getLast?_concat, Option.some.injEq] at hlast
  omega

namespace Build
variable {s s' : State} {ts : List Nat} {t : Nat} {l : LineMark} {settings : DecorationSettings}

/-- What the builder has done after it has come to the lines. -/
structure Decorated (ts : List Nat) (s : State) : Prop where
  seen : s.lastLine = ts.getLast?
  mem : ∀ l ∈ s.lines.items.toList, l.lineStart ∈ ts
  le : ∀ u ∈ ts, u ≤ s.lines.last
  fresh : ts = [] → s.lines.last = 0
  /-- The furthest line is decorated. -/
  top : ts ≠ [] → ∃ l ∈ s.lines.items.toList, l.lineStart = s.lines.last
  distinct : (s.lines.items.toList.Pairwise fun l m => l.lineStart ≠ m.lineStart) ↔ ¬Returns ts

theorem decorated_nil : Decorated [] {} where
  seen := rfl
  mem l hl := absurd hl (by simp)
  le u hu := absurd hu (by simp)
  fresh _ := rfl
  top h := absurd rfl h
  distinct := iff_of_true .nil not_returns_nil

/-- A line before the furthest one is not returned to. -/
theorem Decorated.not_returnsTo (h : Decorated ts s) (hlt : t < s.lines.last) : ¬ReturnsTo ts t := by
  rintro ⟨before, u, rfl, -, hut, hle⟩
  obtain ⟨l, hl, htop⟩ := h.top (by simp)
  rcases List.mem_append.1 (h.mem l hl) with hbefore | hu
  · have := hle _ hbefore
    omega
  · have := List.mem_singleton.1 hu
    omega

/-- A line that is not the last one and not before the furthest one is returned to just if it is decorated: it is
the furthest one itself then. -/
theorem Decorated.returnsTo_iff (h : Decorated ts s) (hnew : s.lastLine ≠ some t) (hle : s.lines.last ≤ t) :
    ReturnsTo ts t ↔ ∃ m ∈ s.lines.items.toList, m.lineStart = t := by
  constructor
  · rintro ⟨before, u, rfl, hmem, -, -⟩
    obtain ⟨m, hm, htop⟩ := h.top (by simp)
    have := h.le t (List.mem_append_left _ hmem)
    exact ⟨m, hm, by omega⟩
  · rintro ⟨m, hm, rfl⟩
    have hmem := h.mem m hm
    rcases List.eq_nil_or_concat ts with rfl | ⟨before, u, rfl⟩
    · simp at hmem
    · have hne : m.lineStart ≠ u := by
        rintro rfl
        exact hnew (by rw [h.seen, List.concat_eq_append, List.getLast?_concat])
      rw [List.concat_eq_append] at hmem h ⊢
      have hu := h.le u (by simp)
      refine ⟨before, u, rfl, ?_, by omega, fun v hv => Nat.le_trans (h.le v (by simp [hv])) hle⟩
      simpa [hne] using hmem

/-! ### Coming to a line -/

theorem Decorated.seen_concat (hlast : s'.lastLine = some t) : s'.lastLine = (ts ++ [t]).getLast? := by
  rw [hlast, List.getLast?_concat]

theorem Decorated.le_concat {n : Nat} (hle : ∀ u ∈ ts, u ≤ n) (ht : t ≤ n) : ∀ u ∈ ts ++ [t], u ≤ n :=
  List.forall_mem_append.2 ⟨hle, List.forall_mem_singleton.2 ht⟩

/-- A line that is neither decorated nor returned to. -/
theorem Decorated.keep (h : Decorated ts s) (hne : ts ≠ []) (hle : t ≤ s.lines.last) (hreturns : ¬ReturnsTo ts t)
    (hlines : s'.lines = s.lines) (hlast : s'.lastLine = some t) : Decorated (ts ++ [t]) s' := by
  refine ⟨seen_concat hlast, ?_, ?_, by simp, fun _ => ?_, ?_⟩ <;> rw [hlines]
  · exact fun l hl => List.mem_append_left _ (h.mem l hl)
  · exact le_concat h.le hle
  · exact h.top hne
  · rw [h.distinct, returns_concat, or_iff_left hreturns]

theorem Decorated.accept (h : Decorated ts s) (hnew : s.lastLine ≠ some l.lineStart)
    (hle : s.lines.last ≤ l.lineStart) (hlines : s'.lines = s.lines.offer l) (hlast : s'.lastLine = some l.lineStart) :
    Decorated (ts ++ [l.lineStart]) s' := by
  have hoffer : s'.lines = ⟨s.lines.items.push l, l.lineStart⟩ := hlines.trans (if_pos hle)
  refine ⟨seen_concat hlast, ?_, ?_, by simp, fun _ => ⟨l, ?_⟩, ?_⟩ <;> rw [hoffer]
  · intro m hm
    rw [Array.toList_push] at hm
    rcases List.mem_append.1 hm with hm | hm
    · exact List.mem_append_left _ (h.mem m hm)
    · rw [List.mem_singleton.1 hm]
      simp
  · exact le_concat (fun u hu => Nat.le_trans (h.le u hu) hle) (Nat.le_refl _)
  · simp
  · rw [Array.toList_push, List.pairwise_append, h.distinct, returns_concat, h.returnsTo_iff hnew hle]
    simp

theorem Decorated.markLine (h : Decorated ts s) (t : Nat) : Decorated (ts ++ [t]) (markLine settings s t) := by
  have hlast := lastLine_markLine settings s t
  have hlines := lines_markLine settings s t
  split at hlines
  case isTrue hseen =>
    have hsame : Build.markLine settings s t = s := if_pos hseen
    have hends : ts.getLast? = some t := h.seen.symm.trans hseen
    have hmem : t ∈ ts := List.mem_of_getLast? hends
    rw [hsame]
    exact h.keep (List.ne_nil_of_mem hmem) (h.le t hmem) (not_returnsTo_last hends) rfl hseen
  case isFalse hnew =>
    by_cases hle : s.lines.last ≤ t
    · exact h.accept hnew hle hlines hlast
    · have hrefused : s.lines.offer ⟨t, settings.blockClass, settings.attributes⟩ = s.lines := if_neg hle
      have hlt := Nat.lt_of_not_le hle
      have hne : ts ≠ [] := fun hnil => by
        have := h.fresh hnil
        omega
      exact h.keep hne (Nat.le_of_lt hlt) (h.not_returnsTo hlt) (hlines.trans hrefused) hlast

theorem Decorated.foldl_markLine (h : Decorated ts s) (us : List Nat) :
    Decorated (ts ++ us) (us.foldl (Build.markLine settings) s) := by
  induction us generalizing ts s with
  | nil => simpa using h
  | cons u us ih =>
    have hstep : Decorated (ts ++ [u]) (Build.markLine settings s u) := h.markLine u
    have hrest := ih hstep
    rwa [List.append_assoc] at hrest

end Build

section
open Region
variable {σ : Type}

/-- No line is decorated twice just if the blocks of the document do not return to one. -/
theorem decorate_distinct_lines (settings : DecorationSettings) (doc : Document) (rs : List Region)
    (h : Highlighter σ) (st : σ) :
    ((decorate settings doc rs h st).1.lines.Pairwise fun l m => l.lineStart ≠ m.lineStart) ↔
      ¬Returns (visitedLines doc rs) := by
  rw [decorate_eq]
  exact (Build.decorated_nil.foldl_markLine (visitedLines doc rs)).distinct

/-- A block on both of two lines, one on the first and one on the second: the second is decorated twice. -/
theorem decorate_returning :
    ¬((decorate {} (.ofString "a\nb") [⟨0, 3, .block⟩, ⟨0, 1, .block⟩, ⟨2, 3, .block⟩] Highlighter.scripted
        []).1.lines.Pairwise fun l m => l.lineStart ≠ m.lineStart) := by
  decide +kernel

end

end Scriptlet
