import Scriptlet.Proofs.CodeLayout
import Scriptlet.Proofs.PatternSearch
import Scriptlet.Proofs.SilentWays

/-!
# Empty matches

Whether a pattern has an empty match at a place can be read off the pattern (`silent`), and a walk through
its program finds one just where there is one (`accepted_program`): the code of each part is passed through
without reading if the part is silent, and is not left otherwise (`through_addCode`).

So a search reports an empty match only where the pattern is silent (`silent_of_find?`), and the test with
the empty text tells of one place alone (`matchesEmpty_eq`).
-/

namespace Scriptlet

namespace Pattern

/-- The pattern has a match at the place that reads nothing. -/
def silent (here : Place) : Pattern → Bool
  | empty => true
  | literal cs => cs.isEmpty
  | one _ => false
  | assert a => a.holds here
  | group p => p.silent here
  | seq p q => p.silent here && q.silent here
  | alt p q => p.silent here || q.silent here
  | repeated _ lo _ p => lo == 0 || p.silent here

/-! ### Ways through code -/

/-- From the index `i` on, a way that reads nothing and accepts goes through `next` if `passable`, and
there is none if not. -/
structure Through (program : Array Instruction) (here : Place) (i next : Nat) (passable : Bool) : Prop where
  onward : ∀ n, Accepts program here n i → passable = true ∧ ∃ m < n, Accepts program here m next
  back : passable = true → ∀ m, Accepts program here m next → ∃ n, Accepts program here n i

variable {program before : Array Instruction} {here : Place} {i j k next : Nat} {a b : Bool}

/-- The first step of a way. -/
theorem Accepts.first {n : Nat} {ins : Instruction} (h : Accepts program here n i)
    (hins : program[i]? = some ins) (hacc : ins ≠ .accept) :
    ∃ m < n, ∃ j ∈ ins.silent here, Accepts program here m j := by
  cases h with
  | done h =>
    cases hins.symm.trans h
    exact absurd rfl hacc
  | step h hj hrest =>
    cases hins.symm.trans h
    exact ⟨_, Nat.lt_succ_self _, _, hj, hrest⟩

namespace Through

theorem trans (h : Through program here i j a) (h' : Through program here j k b) :
    Through program here i k (a && b) where
  onward n hn := by
    obtain ⟨ha, m, hm, hj⟩ := h.onward n hn
    obtain ⟨hb, l, hl, hk⟩ := h'.onward m hj
    exact ⟨by rw [ha, hb]; rfl, l, Nat.lt_trans hl hm, hk⟩
  back hab m hm := by
    obtain ⟨ha, hb⟩ := Bool.and_eq_true_iff.1 hab
    obtain ⟨n, hn⟩ := h'.back hb m hm
    exact h.back ha n hn

theorem jump (h : program[i]? = some (.jump next)) : Through program here i next true where
  onward n hn := by
    obtain ⟨m, hm, j, hj, hrest⟩ := hn.first h (by simp)
    cases List.mem_singleton.1 hj
    exact ⟨rfl, m, hm, hrest⟩
  back _ m hm := ⟨m + 1, .step h (List.mem_singleton_self _) hm⟩

theorem read {s : CharSet} (h : program[i]? = some (.read s k)) : Through program here i next false where
  onward n hn := by
    obtain ⟨_, _, j, hj, _⟩ := hn.first h (by simp)
    cases hj
  back hfalse := by cases hfalse

theorem check {c : Assertion} (h : program[i]? = some (.check c next)) :
    Through program here i next (c.holds here) where
  onward n hn := by
    obtain ⟨m, hm, j, hj, hrest⟩ := hn.first h (by simp)
    by_cases hc : c.holds here = true
    · rw [Instruction.silent, if_pos hc] at hj
      cases List.mem_singleton.1 hj
      exact ⟨hc, m, hm, hrest⟩
    · rw [Instruction.silent, if_neg hc] at hj
      cases hj
  back hc m hm := ⟨m + 1, .step h (by simp [Instruction.silent, hc]) hm⟩

theorem fork (h : program[i]? = some (.fork j k)) (hj : Through program here j next a)
    (hk : Through program here k next b) : Through program here i next (a || b) where
  onward n hn := by
    obtain ⟨m, hm, l, hl, hrest⟩ := hn.first h (by simp)
    rcases List.mem_cons.1 hl with rfl | hl
    · obtain ⟨ha, m', hm', hnext⟩ := hj.onward m hrest
      exact ⟨by rw [ha]; rfl, m', Nat.lt_trans hm' hm, hnext⟩
    · cases List.mem_singleton.1 hl
      obtain ⟨hb, m', hm', hnext⟩ := hk.onward m hrest
      exact ⟨by rw [hb, Bool.or_true], m', Nat.lt_trans hm' hm, hnext⟩
  back hab m hm := by
    rcases Bool.or_eq_true_iff.1 hab with ha | hb
    · obtain ⟨n, hn⟩ := hj.back ha m hm
      exact ⟨n + 1, .step h (by simp [Instruction.silent]) hn⟩
    · obtain ⟨n, hn⟩ := hk.back hb m hm
      exact ⟨n + 1, .step h (by simp [Instruction.silent]) hn⟩

section
variable {greedy : Bool}

theorem mem_silent_choice : k ∈ (Instruction.choice greedy i j).silent here ↔ k = i ∨ k = j := by
  cases greedy <;> simp [Instruction.choice, Instruction.silent, or_comm]

theorem choice_ne_accept : Instruction.choice greedy i j ≠ .accept := by
  cases greedy <;> simp [Instruction.choice]

/-- What may be left out is passable. -/
theorem option (h : program[i]? = some (.choice greedy j next)) (hj : Through program here j next a) :
    Through program here i next true where
  onward n hn := by
    obtain ⟨m, hm, k, hk, hrest⟩ := hn.first h choice_ne_accept
    refine ⟨rfl, ?_⟩
    rcases mem_silent_choice.1 hk with rfl | rfl
    · obtain ⟨_, m', hm', hnext⟩ := hj.onward m hrest
      exact ⟨m', Nat.lt_trans hm' hm, hnext⟩
    · exact ⟨m, hm, hrest⟩
  back _ m hm := ⟨m + 1, .step h (mem_silent_choice.2 (.inr rfl)) hm⟩

/-- A loop is left in the end: each time round makes the way shorter. -/
theorem loop (h : program[i]? = some (.choice greedy j next)) (hj : Through program here j i a) :
    Through program here i next true where
  onward n hn := by
    induction n using Nat.strongRecOn with
    | _ n ih =>
      obtain ⟨m, hm, k, hk, hrest⟩ := hn.first h choice_ne_accept
      refine ⟨rfl, ?_⟩
      rcases mem_silent_choice.1 hk with rfl | rfl
      · obtain ⟨_, m', hm', hround⟩ := hj.onward m hrest
        obtain ⟨_, l, hl, hnext⟩ := ih m' (Nat.lt_trans hm' hm) hround
        exact ⟨l, by omega, hnext⟩
      · exact ⟨m, hm, hrest⟩
  back _ m hm := ⟨m + 1, .step h (mem_silent_choice.2 (.inr rfl)) hm⟩

end

theorem literal {cs : List Char} (h : Begins (addLiteral next cs before) program) :
    Through program here before.size next cs.isEmpty := by
  match cs with
  | [] => exact jump h.getElem?_push
  | [c] => exact read h.getElem?_push
  | c :: d :: cs =>
    exact read ((Begins.addLiteral next (d :: cs) (before.push (.read (.one c) _))).trans h).getElem?_push

section
variable {add : Nat → Array Instruction → Array Instruction} {size : Nat}
  (hsize : ∀ next before, (add next before).size = before.size + size)
  (hbegins : ∀ next before, Begins before (add next before))
  (hadd : ∀ next before, Begins (add next before) program → Through program here before.size next a)
include hsize hbegins hadd

theorem copies {n : Nat} (h : Begins (addCopies add size next (n + 1) before) program) :
    Through program here before.size next a := by
  induction n generalizing before with
  | zero => exact hadd _ _ h
  | succ n ih =>
    have hfirst := hadd _ _ ((Begins.addCopies hbegins ..).trans h)
    have hrest := ih h
    rw [hsize] at hrest
    simpa using hfirst.trans hrest

theorem options {greedy : Bool} {n : Nat}
    (h : Begins (addOptions greedy add size next (n + 1) before) program) :
    Through program here before.size next true := by
  induction n generalizing before with
  | zero =>
    have hfirst := hadd _ _ h
    rw [Array.size_push] at hfirst
    exact option ((hbegins ..).trans h).getElem?_push hfirst
  | succ n ih =>
    have hpart : Begins (add _ (before.push (.choice greedy _ next))) program :=
      (Begins.addOptions hbegins greedy size next (n + 1) _).trans h
    have hfirst := hadd _ _ hpart
    have hrest := ih h
    rw [hsize, Array.size_push] at hrest
    rw [Array.size_push] at hfirst
    exact option ((hbegins ..).trans hpart).getElem?_push (hfirst.trans hrest)

end

end Through

/-- Code is passed through without reading where its pattern is silent. -/
theorem through_addCode (here : Place) (p : Pattern) (next : Nat) (before : Array Instruction)
    (h : Begins (p.addCode next before) program) :
    Through program here before.size next (p.silent here) := by
  induction p generalizing next before with
  | empty => exact .jump h.getElem?_push
  | literal cs => exact .literal h
  | one s => exact .read h.getElem?_push
  | assert c => exact .check h.getElem?_push
  | group p hp => exact hp _ _ h
  | seq p q hp hq =>
    have hfirst := hp _ _ ((Begins.addCode ..).trans h)
    have hrest := hq _ _ h
    rw [size_addCode] at hrest
    exact hfirst.trans hrest
  | alt p q hp hq =>
    have hpart := (Begins.addCode q ..).trans h
    have hfirst := hp _ _ hpart
    have hrest := hq _ _ h
    rw [size_addCode, Array.size_push] at hrest
    rw [Array.size_push] at hfirst
    exact .fork ((Begins.addCode p ..).trans hpart).getElem?_push hfirst hrest
  | repeated greedy lo hi p hp =>
    match lo, hi with
    | 0, none =>
      simp only [addCode] at h
      split at h
      · have hround := hp _ _ h
        rw [Array.size_push] at hround
        exact .loop ((Begins.addCode ..).trans h).getElem?_push hround
      · have hlast := h.getElem?_push
        have hround := hp _ _ h.of_push
        rw [size_addCode, Array.size_push] at hlast
        rw [Array.size_push] at hround
        exact .option ((Begins.addCode ..).trans h.of_push).getElem?_push (hround.trans (.loop hlast hround))
    | lo + 1, none =>
      have hlast := h.getElem?_push
      have hround := hp _ _ h.of_push
      rw [size_addCode, size_addCopies (size_addCode p)] at hlast
      rw [size_addCopies (size_addCode p)] at hround
      have hbehind := hround.trans (.loop hlast hround)
      have hpassable : (lo + 1 == 0 || p.silent here) = (p.silent here && true) := by simp
      rw [silent, hpassable]
      cases lo with
      | zero => simpa using hbehind
      | succ lo =>
        have hcopies := Through.copies (size_addCode p) (Begins.addCode p) hp
          ((Begins.addCode ..).trans h.of_push)
        simpa using hcopies.trans hbehind
    | lo, some hi =>
      simp only [addCode] at h
      split at h
      · rename_i hzero
        rw [silent, hzero.1]
        exact .jump h.getElem?_push
      · have hcopies := (Begins.addOptions (Begins.addCode p) ..).trans h
        rcases Nat.lt_or_ge lo hi with hlt | hge
        · obtain ⟨n, hn⟩ : ∃ n, hi - lo = n + 1 := ⟨hi - lo - 1, by omega⟩
          rw [hn] at h
          have hoptions := Through.options (size_addCode p) (Begins.addCode p) hp h
          rw [size_addCopies (size_addCode p)] at hoptions
          cases lo with
          | zero => simpa [silent, addCopies] using hoptions
          | succ lo =>
            rw [if_neg (by omega)] at hcopies
            have := Through.copies (size_addCode p) (Begins.addCode p) hp hcopies
            simpa [silent] using this.trans hoptions
        · obtain ⟨n, rfl⟩ : ∃ n, lo = n + 1 := ⟨lo - 1, by omega⟩
          rw [if_pos hge] at hcopies
          simpa [silent] using Through.copies (size_addCode p) (Begins.addCode p) hp hcopies

/-- A walk from the beginning of a program accepts just where the pattern is silent. -/
theorem accepted_program (p : Pattern) (here : Place) :
    (walk p.program here [0]).accepted = p.silent here := by
  have hthrough := through_addCode here p p.codeSize #[] (Begins.push _ .accept)
  have hend : p.program[p.codeSize]? = some .accept := by
    have := (Begins.refl p.program).getElem?_push
    rwa [size_addCode, Array.size_empty, Nat.zero_add] at this
  rw [Bool.eq_iff_iff, accepted_walk_iff]
  constructor
  · rintro ⟨i, hi, n, hn⟩
    cases List.mem_singleton.1 hi
    exact (hthrough.onward n hn).1
  · intro hsilent
    exact ⟨0, List.mem_singleton_self 0, hthrough.back hsilent 0 (.done hend)⟩

/-- An empty match is found only where the pattern is silent. -/
theorem silent_of_find? {p : Pattern} {c : Text.Cursor} (h : p.find? c = some (k, 0)) :
    p.silent ⟨(c.advance k).before.head?, (c.advance k).after.head?⟩ = true := by
  rw [← accepted_program]
  exact accepted_of_matchLength?_zero (find?_eq_some_iff.1 h).2.1

/-- The test with the empty text sees the place without characters. -/
theorem matchesEmpty_eq (p : Pattern) : p.matchesEmpty = p.silent ⟨none, none⟩ := by
  rw [← accepted_program, matchesEmpty, find?, Text.Cursor.start, findFrom, matchLength?, reach, List.head?_nil]
  cases (walk p.program ⟨none, none⟩ [0]).accepted <;> rfl

end Pattern

end Scriptlet
