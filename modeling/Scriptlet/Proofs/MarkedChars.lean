import Scriptlet.Proofs.Rebuild
import Scriptlet.Proofs.RunLength

/-!
# The marks over a character

Spans tile their fragment and regions do not meet, so a character has the mark of the one span that holds
it, or none if that span has no class (`classesAt_tokenMarks`). In runs of classes this is the class of
the character (`Span.shows_runLength`).
-/

namespace Scriptlet

/-- The classes of the marks over the character at the offset, in the order of the marks. -/
def Mark.classesAt (marks : List Mark) (offset : Nat) : List String :=
  (marks.filter fun m => m.start ≤ offset && offset < m.stop).map (·.cls)

namespace Mark
variable {ms ns : List Mark} {offset : Nat}

theorem classesAt_append : classesAt (ms ++ ns) offset = classesAt ms offset ++ classesAt ns offset := by
  simp [classesAt]

theorem classesAt_eq_nil (h : ∀ m ∈ ms, offset < m.start ∨ m.stop ≤ offset) : classesAt ms offset = [] := by
  rw [classesAt, List.map_eq_nil_iff, List.filter_eq_nil_iff]
  intro m hm
  have := h m hm
  simp only [Bool.and_eq_true, decide_eq_true_eq]
  omega

end Mark

/-! ### Runs -/

namespace Span

theorem tiles_runLengthFrom (i : Nat) (classes : List (Option String)) :
    Tiles i (i + classes.length) (runLengthFrom i classes) := by
  induction classes generalizing i with
  | nil => rfl
  | cons cls rest ih =>
    have hrest := ih (i + 1)
    rw [List.length_cons, Nat.add_comm rest.length, ← Nat.add_assoc, runLengthFrom]
    cases hruns : runLengthFrom (i + 1) rest with
    | nil =>
      rw [hruns] at hrest
      exact ⟨rfl, Nat.lt_succ_self i, hrest⟩
    | cons s ss =>
      rw [hruns] at hrest
      obtain ⟨hs, hlt, htail⟩ := hrest
      rw [extend]
      split
      · simp only [range] at hs hlt
        exact ⟨rfl, show i < s.stop by omega, htail⟩
      · exact ⟨rfl, Nat.lt_succ_self i, hs, hlt, htail⟩

theorem shows_runLengthFrom (i : Nat) (classes : List (Option String)) :
    Shows i classes (runLengthFrom i classes) := by
  induction classes generalizing i with
  | nil => intro s hs; cases hs
  | cons cls rest ih =>
    have hstart := (tiles_runLengthFrom (i + 1) rest).within
    have hrest := ih (i + 1)
    -- what a later span shows is shown at the same characters here
    have hlater : ∀ s ∈ runLengthFrom (i + 1) rest, ∀ j, s.start ≤ i + j → i + j < s.stop →
        (cls :: rest)[j]? = some s.cls := by
      intro s hs j h₁ h₂
      have hin := (hstart s.range (List.mem_map_of_mem hs)).1
      simp only [range] at hin
      cases j with
      | zero => omega
      | succ j => exact hrest s hs j (by omega) (by omega)
    have hfirst : ∀ j, i ≤ i + j → i + j < i + 1 → (cls :: rest)[j]? = some cls := by
      intro j _ h
      obtain rfl : j = 0 := by omega
      rfl
    rw [runLengthFrom]
    cases hruns : runLengthFrom (i + 1) rest with
    | nil =>
      intro s hs
      obtain rfl := List.mem_singleton.1 hs
      exact hfirst
    | cons t ts =>
      rw [hruns] at hlater hstart
      rw [extend]
      split
      · rename_i hcls
        intro s hs j h₁ h₂
        rcases List.mem_cons.1 hs with rfl | hs
        · by_cases hj : i + j < i + 1
          · exact hfirst j h₁ hj
          · have ht := tiles_runLengthFrom (i + 1) rest
            rw [hruns] at ht
            have hstart : t.start = i + 1 := ht.1
            rw [hlater t (List.mem_cons_self ..) j (by omega) h₂, hcls]
        · exact hlater s (List.mem_cons_of_mem _ hs) j h₁ h₂
      · intro s hs
        rcases List.mem_cons.1 hs with rfl | hs
        · exact hfirst
        · exact hlater s hs

theorem tiles_runLength (classes : List (Option String)) : Tiles 0 classes.length (runLength classes) := by
  have := tiles_runLengthFrom 0 classes
  rwa [Nat.zero_add] at this

/-- The runs show every character its class. -/
theorem shows_runLength (classes : List (Option String)) : Shows 0 classes (runLength classes) :=
  shows_runLengthFrom 0 classes

theorem Tiles.exists_at {a b i : Nat} {spans : List Span} (h : Tiles a b spans) (ha : a ≤ i) (hb : i < b) :
    ∃ s ∈ spans, s.start ≤ i ∧ i < s.stop := by
  induction spans generalizing a with
  | nil =>
    have : a = b := h
    omega
  | cons s ss ih =>
    obtain ⟨hs, -, h⟩ := h
    simp only [range] at hs h
    by_cases hi : i < s.stop
    · exact ⟨s, List.mem_cons_self .., by omega, hi⟩
    · obtain ⟨t, ht, hin⟩ := ih h (by omega)
      exact ⟨t, List.mem_cons_of_mem s ht, hin⟩

end Span

/-! ### From spans to the document -/

namespace Region
open Mark
variable {a b i : Nat} {doc : Document} {answer : Answer} {r : Region} {rs : List Region} {s : Span}
  {spans : List Span}

theorem spanMarks_cons (start : Nat) (s : Span) (ss : List Span) : spanMarks start (s :: ss) =
    (s.cls.map fun cls => ⟨start + s.start, start + s.stop, cls, .empty⟩).toList ++ spanMarks start ss := by
  rw [spanMarks, List.filterMap_cons]
  cases s.cls <;> rfl

theorem classesAt_spanMarks (h : Span.Tiles a b spans) (start : Nat) (hs : s ∈ spans) (hi : s.start ≤ i)
    (hi' : i < s.stop) : classesAt (spanMarks start spans) (start + i) = s.cls.toList := by
  induction spans generalizing a with
  | nil => cases hs
  | cons t ts ih =>
    obtain ⟨-, hlt, h⟩ := h
    rw [spanMarks_cons, classesAt_append]
    rcases List.mem_cons.1 hs with rfl | hs
    · have hrest : classesAt (spanMarks start ts) (start + i) = [] := by
        refine classesAt_eq_nil fun m hm => ?_
        have := (spanMarks_within h hm).1
        simp only [Span.range] at this
        omega
      rw [hrest, List.append_nil]
      cases s.cls with
      | none => rfl
      | some cls => simp [classesAt, hi, hi']
    · have hin := (h.within s.range (List.mem_map_of_mem hs)).1
      simp only [Span.range] at hin
      have hfirst : classesAt (t.cls.map fun cls => (⟨start + t.start, start + t.stop, cls, .empty⟩ : Mark)).toList
          (start + i) = [] := by
        refine classesAt_eq_nil fun m hm => ?_
        obtain ⟨cls, -, rfl⟩ := Option.map_eq_some_iff.1 (Option.mem_toList.1 hm)
        exact .inr (by simp only; omega)
      rw [hfirst, List.nil_append]
      exact ih h hs

/-- Of all token marks, those over a character of a region are the region's own. -/
theorem Ordered.classesAt_tokenMarks (htiles : answer.Tiles) (h : Ordered a b rs) (hb : b ≤ doc.length)
    (hr : r ∈ rs) (hi : r.start ≤ i) (hi' : i < r.stop) :
    classesAt (rs.flatMap fun r => r.tokenMarks doc answer) i = classesAt (r.tokenMarks doc answer) i := by
  induction rs generalizing a with
  | nil => cases hr
  | cons q qs ih =>
    obtain ⟨-, hlt, h⟩ := h
    have hq := h.le
    rw [List.flatMap_cons, classesAt_append]
    rcases List.mem_cons.1 hr with rfl | hr
    · have hrest : classesAt (qs.flatMap fun r => r.tokenMarks doc answer) i = [] := by
        refine classesAt_eq_nil fun m hm => ?_
        obtain ⟨p, hp, hm⟩ := List.mem_flatMap.1 hm
        obtain ⟨hle, hlt', hstop⟩ := h.within p hp
        have := tokenMarks_within htiles hlt' (Nat.le_trans hstop hb) hm
        omega
      rw [hrest, List.append_nil]
    · have hle := (h.within r hr).1
      have hfirst : classesAt (q.tokenMarks doc answer) i = [] := by
        refine classesAt_eq_nil fun m hm => ?_
        have := tokenMarks_within htiles hlt (Nat.le_trans hq hb) hm
        omega
      rw [hfirst, List.nil_append]
      exact ih h hr

/-- The token marks over a character are that of the span that holds it. -/
theorem Ordered.classesAt_span (htiles : answer.Tiles) (h : Ordered 0 doc.length rs) (hr : r ∈ rs)
    (hspans : answer (r.fragment doc) = .ok spans) (hs : s ∈ spans) (hi : s.start ≤ i) (hi' : i < s.stop) :
    classesAt (rs.flatMap fun r => r.tokenMarks doc answer) (r.start + i) = s.cls.toList := by
  have ht := htiles _ _ hspans
  obtain ⟨-, hlt, hstop⟩ := h.within r hr
  have hin := (ht.within s.range (List.mem_map_of_mem hs)).2.2
  rw [Region.length_fragment hstop] at hin
  simp only [Span.range] at hin
  rw [h.classesAt_tokenMarks htiles (Nat.le_refl _) hr (by omega) (by omega), tokenMarks, hspans]
  exact classesAt_spanMarks ht r.start hs hi hi'

/-- In a region whose spans are the runs of some classes, a character has its class. -/
theorem Ordered.classesAt_runs (htiles : answer.Tiles) (h : Ordered 0 doc.length rs) (hr : r ∈ rs)
    {classes : List (Option String)} (hspans : answer (r.fragment doc) = .ok (Span.runLength classes))
    {cls : Option String} (hi : classes[i]? = some cls) :
    classesAt (rs.flatMap fun r => r.tokenMarks doc answer) (r.start + i) = cls.toList := by
  have hlt : i < classes.length := (List.getElem?_eq_some_iff.1 hi).1
  obtain ⟨s, hs, h₁, h₂⟩ := (Span.tiles_runLength classes).exists_at (Nat.zero_le i) hlt
  have hshows := Span.shows_runLength classes s hs i (by omega) (by omega)
  rw [h.classesAt_span htiles hr hspans hs h₁ h₂, Option.some.inj (hi.symm.trans hshows)]

end Region

end Scriptlet
