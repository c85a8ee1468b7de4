import Mathlib.Data.List.Chain
import Scriptlet.Proofs.SpanTiling

/-!
# Runs of one class

`Span.runLength` writes a list of classes, one for each character, as spans. It is the only tiling whose
spans have one class throughout and differ in class from their neighbours (`eq_runLength`), so this is
all that has to be shown of spans found in another way.
-/

namespace Scriptlet.Span

/-- Spans that start at `i + 1`, with a character of class `cls` in front. -/
def extend (i : Nat) (cls : Option String) : List Span → List Span
  | [] => [⟨i, i + 1, cls⟩]
  | s :: ss => if cls = s.cls then ⟨i, s.stop, cls⟩ :: ss else ⟨i, i + 1, cls⟩ :: s :: ss

/-- The runs of equal classes, the first of which is that of the character `i`. -/
def runLengthFrom (i : Nat) : List (Option String) → List Span
  | [] => []
  | cls :: rest => extend i cls (runLengthFrom (i + 1) rest)

/-- The runs of equal classes, for the classes of the characters of a text. -/
def runLength (classes : List (Option String)) : List Span :=
  runLengthFrom 0 classes

/-- Neighbours have different classes. -/
abbrev Maximal (spans : List Span) : Prop := spans.IsChain fun s t => s.cls ≠ t.cls

/-- Every span has the class of each of its characters, where the first class is that of the
character `i`. -/
def Shows (i : Nat) (classes : List (Option String)) (spans : List Span) : Prop :=
  ∀ s ∈ spans, ∀ j, s.start ≤ i + j → i + j < s.stop → classes[j]? = some s.cls

theorem Shows.tail {i : Nat} {cls : Option String} {classes : List (Option String)} {spans : List Span}
    (h : Shows i (cls :: classes) spans) : Shows (i + 1) classes spans := by
  intro s hs j h₁ h₂
  have := h s hs (j + 1) (by omega) (by omega)
  simpa using this

theorem eq_runLengthFrom {i : Nat} {classes : List (Option String)} {spans : List Span}
    (ht : Tiles i (i + classes.length) spans) (hs : Shows i classes spans) (hm : Maximal spans) :
    spans = runLengthFrom i classes := by
  induction classes generalizing i spans with
  | nil =>
    have := ht.eq_nil
    simpa [runLengthFrom] using this
  | cons cls rest ih =>
    have hlen : i + (cls :: rest).length = i + 1 + rest.length := by simp only [List.length_cons]; omega
    rw [hlen] at ht
    cases spans with
    | nil =>
      have : i = i + 1 + rest.length := ht
      omega
    | cons s ss =>
      obtain ⟨first, last, scls⟩ := s
      obtain ⟨hfirst, hlt, ht⟩ := ht
      simp only [range] at hfirst hlt ht
      subst hfirst
      have hcls : cls = scls := by
        have := hs _ (List.mem_cons_self ..) 0 (Nat.le_refl _) (by simpa using hlt)
        simpa using this
      subst hcls
      -- The first span ends here, or the rest of it is the first span of what follows.
      rcases Nat.eq_or_lt_of_le (Nat.succ_le_of_lt hlt) with hlast | hlast
      · subst hlast
        have hrest := ih ht (Shows.tail fun t ht => hs t (List.mem_cons_of_mem _ ht)) hm.tail
        rw [runLengthFrom, ← hrest]
        cases ss with
        | nil => rfl
        | cons t ts =>
          have hne : cls ≠ t.cls := (List.isChain_cons_cons.1 hm).1
          simp [extend, hne]
      · have hshows : Shows first (cls :: rest) (⟨first + 1, last, cls⟩ :: ss) := by
          intro t ht j h₁ h₂
          rcases List.mem_cons.1 ht with rfl | ht
          · exact hs _ (List.mem_cons_self ..) j (show first ≤ first + j by omega) h₂
          · exact hs t (List.mem_cons_of_mem _ ht) j h₁ h₂
        have hmax : Maximal (⟨first + 1, last, cls⟩ :: ss) := by
          cases ss with
          | nil => exact .singleton _
          | cons t ts => exact .cons_cons (List.isChain_cons_cons.1 hm).1 hm.tail
        have htail : Tiles (first + 1) (first + 1 + rest.length) (⟨first + 1, last, cls⟩ :: ss) :=
          ⟨rfl, hlast, ht⟩
        have hrest := ih htail hshows.tail hmax
        rw [runLengthFrom, ← hrest]
        simp [extend]

/-- A tiling with the right classes and no two neighbours alike is the list of runs. -/
theorem eq_runLength {classes : List (Option String)} {spans : List Span}
    (ht : Tiles 0 classes.length spans) (hs : Shows 0 classes spans) (hm : Maximal spans) :
    spans = runLength classes :=
  eq_runLengthFrom (by simpa using ht) hs hm

end Scriptlet.Span
