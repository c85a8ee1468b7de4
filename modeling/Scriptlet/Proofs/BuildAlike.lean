import Scriptlet.Proofs.BuildSteps

/-!
# Builds that differ in what they tell

What a builder keeps does not depend on the events so far, and of a highlighter it only takes the spans.
So two highlighters with the same answers lead to the same decorations, whatever each keeps to itself and
whatever each tells (`decorate_congr`). `Alike` is the relation between the two runs.
-/

namespace Scriptlet.Build

variable {s t : State} {doc : Document} {r : Region} {settings : DecorationSettings}

/-- The second state has built what the first has. -/
def Alike (s t : State) : Prop := ∃ events, t = { s with events }

namespace Alike

theorem refl (s : State) : Alike s s := ⟨s.events, rfl⟩

theorem tell (h : Alike s t) (e : Event) : Alike (s.tell e) (t.tell e) := by
  obtain ⟨events, rfl⟩ := h
  exact ⟨_, rfl⟩

theorem tellAll (h : Alike s t) (es es' : List Event) : Alike (s.tellAll es) (t.tellAll es') := by
  obtain ⟨events, rfl⟩ := h
  exact ⟨_, rfl⟩

theorem fail (h : Alike s t) (r : Region) :
    Alike { s with unhighlighted := s.unhighlighted.push r } { t with unhighlighted := t.unhighlighted.push r } := by
  obtain ⟨events, rfl⟩ := h
  exact ⟨events, rfl⟩

theorem foldl {α : Type} {f : State → α → State} (hf : ∀ s t a, Alike s t → Alike (f s a) (f t a))
    (h : Alike s t) (as : List α) : Alike (as.foldl f s) (as.foldl f t) := by
  induction as generalizing s t with
  | nil => exact h
  | cons a as ih => exact ih (hf s t a h)

theorem addMark (h : Alike s t) (m : Except DecorationError Mark) : Alike (s.addMark m) (t.addMark m) := by
  obtain ⟨events, rfl⟩ := h
  dsimp only [State.addMark]
  cases m.bind s.marks.add with
  | ok marks => exact ⟨events, rfl⟩
  | error e => exact ⟨_, rfl⟩

theorem addLine (h : Alike s t) (l : LineMark) : Alike (s.addLine l) (t.addLine l) := by
  obtain ⟨events, rfl⟩ := h
  dsimp only [State.addLine]
  cases s.lines.add l with
  | ok lines => exact ⟨events, rfl⟩
  | error e => exact ⟨_, rfl⟩

theorem markLine (h : Alike s t) (start : Nat) : Alike (markLine settings s start) (markLine settings t start) := by
  obtain ⟨events, rfl⟩ := h
  dsimp only [Build.markLine]
  split
  · exact ⟨events, rfl⟩
  · exact addLine ⟨events, rfl⟩ _

theorem markLines (h : Alike s t) : Alike (markLines settings doc r s) (markLines settings doc r t) := by
  unfold Build.markLines
  split
  · exact h.foldl (fun _ _ start h => h.markLine start) _
  · exact h.tell _
  · exact h.tell _

theorem markRegion (h : Alike s t) : Alike (markRegion settings doc r s) (markRegion settings doc r t) := by
  unfold Build.markRegion
  split
  · exact h.markLines
  · exact h.addMark _

theorem markSpan (h : Alike s t) (start : Nat) (span : Span) :
    Alike (markSpan start s span) (markSpan start t span) := by
  unfold Build.markSpan
  split
  · exact h
  · exact h.addMark _

end Alike

section
variable {σ τ : Type} {highlighter : Highlighter σ} {highlighter' : Highlighter τ} {good : σ → Prop}
  {good' : τ → Prop} {answer : Answer} {st : σ} {st' : τ}

theorem alike_region (hans : Answers highlighter good answer) (hans' : Answers highlighter' good' answer)
    (hgood : good st) (hgood' : good' st') (h : Alike s t) (r : Region) :
    Alike (region settings doc highlighter s st r).1 (region settings doc highlighter' t st' r).1 := by
  unfold region
  cases doc.slice r.start r.stop with
  | error e => exact h.tell _
  | ok fragment =>
    have hspans := hans.spans fragment st hgood
    have hspans' := hans'.spans fragment st' hgood'
    rcases hsaid : highlighter fragment st with ⟨⟨spans, es⟩, st₁⟩
    rcases hsaid' : highlighter' fragment st' with ⟨⟨spans', es'⟩, st₁'⟩
    rw [hsaid] at hspans
    rw [hsaid'] at hspans'
    have hsame : spans = spans' := hspans.trans hspans'.symm
    subst hsame
    simp only [hsaid, hsaid']
    have hmarked : Alike (markRegion settings doc r s) (markRegion settings doc r t) := h.markRegion
    cases spans with
    | ok spans => exact (hmarked.tellAll es es').foldl (fun _ _ span h => h.markSpan r.start span) spans
    | error e => exact ((hmarked.tellAll es es').fail r).tell (.unhighlighted r e)

theorem alike_regions (hans : Answers highlighter good answer) (hans' : Answers highlighter' good' answer)
    (hgood : good st) (hgood' : good' st') (h : Alike s t) (rs : List Region) :
    Alike (regions settings doc highlighter s st rs).1 (regions settings doc highlighter' t st' rs).1 := by
  induction rs generalizing s t st st' with
  | nil => exact h
  | cons r rs ih =>
    exact ih (good_region settings doc hans hgood s r) (good_region settings doc hans' hgood' t r)
      (alike_region hans hans' hgood hgood' h r)

/-- The decorations depend on the highlighter by its answers alone. -/
theorem decorate_congr (settings : DecorationSettings) (doc : Document) (rs : List Region)
    (hans : Answers highlighter good answer) (hans' : Answers highlighter' good' answer)
    (hgood : good st) (hgood' : good' st') :
    (decorate settings doc rs highlighter st).1 = (decorate settings doc rs highlighter' st').1 := by
  have hbuilt : Alike (regions settings doc highlighter {} st rs).1 (regions settings doc highlighter' {} st' rs).1 :=
    alike_regions hans hans' hgood hgood' (.refl {}) rs
  obtain ⟨events, heq⟩ := hbuilt
  simp only [decorate, heq]

end

end Scriptlet.Build
