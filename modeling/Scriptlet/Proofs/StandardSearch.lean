import Scriptlet.Proofs.ScanSteps

/-!
# Searching for the standard delimiters

Each of the standard delimiters is found where its two characters stand (`find?_opener`,
`find?_closer`), and what is found is as long as these, or longer by a star behind an opener. So
their matches are never empty, and a search for either is the search for the next pair (`nextPair`),
which needs no pattern.
-/

namespace Scriptlet

/-! ### Pairs of characters -/

namespace Pair

/-- The two characters stand at the offset, one behind the other. -/
def isAt (x y : Char) (text : List Char) (i : Nat) : Bool :=
  text[i]? == some x && text[i + 1]? == some y

/-- The least offset not before `start` at which they stand. -/
def next (x y : Char) (text : List Char) (start : Nat) : Option Nat :=
  (List.range' start (text.length - start)).find? (isAt x y text)

variable {x y : Char} {text : List Char} {start i : Nat}

theorem isAt_iff : isAt x y text i = true ↔ text[i]? = some x ∧ text[i + 1]? = some y := by
  simp [isAt]

theorem lt_of_isAt (h : isAt x y text i = true) : i + 1 < text.length :=
  (List.getElem?_eq_some_iff.1 (isAt_iff.1 h).2).1

theorem exists_eq_cons (h : isAt x y text 0 = true) : ∃ rest, text = x :: y :: rest := by
  obtain ⟨hx, hy⟩ := isAt_iff.1 h
  match text with
  | [] => cases hx
  | [_] => cases hy
  | a :: b :: rest =>
    cases hx
    cases hy
    exact ⟨rest, rfl⟩

theorem next_eq_some : next x y text start = some i ↔
    isAt x y text i = true ∧ start ≤ i ∧ ∀ k, start ≤ k → k < i → isAt x y text k = false := by
  rw [next, List.find?_range'_eq_some]
  constructor
  · rintro ⟨hi, hmem, hleast⟩
    refine ⟨hi, (List.mem_range'_1.1 hmem).1, fun k hk hki => by simpa using hleast k hk hki⟩
  · rintro ⟨hi, hle, hleast⟩
    have := lt_of_isAt hi
    exact ⟨hi, List.mem_range'_1.2 ⟨hle, by omega⟩, fun k hk hki => by simp [hleast k hk hki]⟩

theorem next_eq_none : next x y text start = none ↔ ∀ k, start ≤ k → isAt x y text k = false := by
  rw [next, List.find?_eq_none]
  constructor
  · intro h k hk
    refine Bool.eq_false_iff.2 fun hat => h k (List.mem_range'_1.2 ⟨hk, ?_⟩) hat
    have := lt_of_isAt hat
    omega
  · intro h k hk
    simp [h k (List.mem_range'_1.1 hk).1]

/-- Where no pair begins the search may as well go on behind. -/
theorem next_eq_of_miss {stop : Nat} (hle : start ≤ stop)
    (hmiss : ∀ k, start ≤ k → k < stop → isAt x y text k = false) : next x y text start = next x y text stop := by
  cases hrest : next x y text stop with
  | some i =>
    obtain ⟨hat, hi, hleast⟩ := next_eq_some.1 hrest
    refine next_eq_some.2 ⟨hat, by omega, fun k hk hki => ?_⟩
    rcases Nat.lt_or_ge k stop with hlt | hge
    · exact hmiss k hk hlt
    · exact hleast k hge hki
  | none =>
    refine next_eq_none.2 fun k hk => ?_
    rcases Nat.lt_or_ge k stop with hlt | hge
    · exact hmiss k hk hlt
    · exact next_eq_none.1 hrest k hge

/-- The next pair of a text that begins with another character is that of the rest. -/
theorem next_cons (c : Char) (cs : List Char) : next x y (c :: cs) 0 =
    if isAt x y (c :: cs) 0 then some 0 else (next x y cs 0).map (· + 1) := by
  have hshift : isAt x y (c :: cs) ∘ (· + 1) = isAt x y cs := rfl
  have hrange : List.range' 1 cs.length = (List.range' 0 cs.length).map (· + 1) := by
    simp only [Nat.add_comm _ 1, List.map_add_range']
  simp only [next, List.length_cons, Nat.sub_zero, List.range'_succ, List.find?_cons, Nat.zero_add, hrange,
    List.find?_map, hshift]
  cases isAt x y (c :: cs) 0 <;> rfl

end Pair

namespace Pattern
variable {program : Array Instruction} {indices : List Nat} {before : Option Char} {read : Nat}

/-! ### Ways without a choice -/

/-- What a walk from the indices comes to at every place. -/
def Leads (program : Array Instruction) (indices : List Nat) (reads : List (CharSet × Nat)) (accepted : Bool) :
    Prop :=
  ∀ here, ∃ passed, walk program here indices = ⟨passed, reads, accepted⟩

theorem afterReading_single (passed : Array Bool) (x c : Char) (next : Nat) (accepted : Bool) :
    Walk.afterReading ⟨passed, [(.one x, next)], accepted⟩ c = if c = x then [next] else [] := by
  simp [Walk.afterReading, eq_comm (a := x)]

/-- All that can come next is one character. -/
theorem reach_read {x : Char} {next : Nat} {accepted : Bool}
    (h : Leads program indices [(.one x, next)] accepted) (text : List Char) :
    reach program before indices read none text =
      if text[0]? = some x then
        reach program (some x) [next] (read + 1) (if accepted then some read else none) (text.drop 1)
      else if accepted then some read else none := by
  cases text with
  | nil =>
    obtain ⟨passed, hw⟩ := h ⟨before, none⟩
    simp [reach, hw]
  | cons c cs =>
    obtain ⟨passed, hw⟩ := h ⟨before, some c⟩
    simp only [reach, hw, afterReading_single]
    by_cases hc : c = x
    · simp [hc]
    · simp [hc]

/-- Nothing can come next. -/
theorem reach_accept {best : Option Nat} (h : Leads program indices [] true) (text : List Char) :
    reach program before indices read best text = some read := by
  cases text with
  | nil =>
    obtain ⟨passed, hw⟩ := h ⟨before, none⟩
    simp [reach, hw]
  | cons c cs =>
    obtain ⟨passed, hw⟩ := h ⟨before, some c⟩
    simp [reach, hw, Walk.afterReading]

/-- A program that matches behind two characters only is found where they stand next. -/
theorem findFrom_pair {x y : Char} {size : List Char → Nat}
    (h : ∀ before text, matchLength? program ⟨before, text⟩ =
      if Pair.isAt x y text 0 then some (size text) else none)
    (before : List Char) (skipped : Nat) (text : List Char) : findFrom program before skipped text =
      (Pair.next x y text 0).map fun k => (skipped + k, size (text.drop k)) := by
  induction text generalizing before skipped with
  | nil => simp [findFrom, h, Pair.next, Pair.isAt]
  | cons c cs ih =>
    rw [findFrom, h, Pair.next_cons]
    by_cases hat : Pair.isAt x y (c :: cs) 0 = true
    · simp only [hat, ↓reduceIte, Option.map_some, List.drop_zero, Nat.add_zero]
    · simp only [hat, Bool.false_eq_true, ↓reduceIte, ih, Option.map_map]
      congr 1
      funext k
      simp only [Function.comp, List.drop_succ_cons]
      congr 1
      omega

end Pattern

namespace Delimiters
open Pattern

/-- The standard delimiters are what their texts stand for. -/
theorem ofTexts_standard : ofTexts standardOpen standardClose = .ok standard := rfl

/-- The length of an opener that stands in front of the text. -/
def standardOpenerSize (text : List Char) : Nat := if text[2]? = some '*' then 3 else 2

theorem matchLength?_closer (before text : List Char) : matchLength? standard.closer.program ⟨before, text⟩ =
    if Pair.isAt '%' '>' text 0 then some 2 else none := by
  have h₀ : Leads standard.closer.program [0] [(.one '%', 1)] false := fun _ => ⟨_, rfl⟩
  have h₁ : Leads standard.closer.program [1] [(.one '>', 2)] false := fun _ => ⟨_, rfl⟩
  have h₂ : Leads standard.closer.program [2] [] true := fun _ => ⟨_, rfl⟩
  simp only [matchLength?, reach_read h₀, reach_read h₁, reach_accept h₂, Bool.false_eq_true, ↓reduceIte,
    List.getElem?_drop, Pair.isAt, Nat.add_zero, Nat.zero_add, Bool.and_eq_true, beq_iff_eq]
  by_cases h : text[0]? = some '%' <;> simp [h]

theorem matchLength?_opener (before text : List Char) : matchLength? standard.opener.program ⟨before, text⟩ =
    if Pair.isAt '<' '%' text 0 then some (standardOpenerSize text) else none := by
  have h₀ : Leads standard.opener.program [0] [(.one '<', 1)] false := fun _ => ⟨_, rfl⟩
  have h₁ : Leads standard.opener.program [1] [(.one '%', 2)] false := fun _ => ⟨_, rfl⟩
  have h₂ : Leads standard.opener.program [2] [(.one '*', 4)] true := fun _ => ⟨_, rfl⟩
  have h₄ : Leads standard.opener.program [4] [] true := fun _ => ⟨_, rfl⟩
  simp only [matchLength?, reach_read h₀, reach_read h₁, reach_read h₂, reach_accept h₄, Bool.false_eq_true,
    ↓reduceIte, List.getElem?_drop, Pair.isAt, Nat.add_zero, Nat.zero_add, Bool.and_eq_true, beq_iff_eq,
    standardOpenerSize]
  by_cases h : text[0]? = some '<'
  · by_cases h' : text[1]? = some '%'
    · by_cases h'' : text[2]? = some '*' <;> simp [h, h', h'']
    · simp [h, h']
  · simp [h]

theorem find?_closer (c : Text.Cursor) : standard.closer.find? c =
    (Pair.next '%' '>' c.after 0).map fun k => (k, 2) := by
  simp only [find?, findFrom_pair matchLength?_closer, Nat.zero_add]

theorem find?_opener (c : Text.Cursor) : standard.opener.find? c =
    (Pair.next '<' '%' c.after 0).map fun k => (k, standardOpenerSize (c.after.drop k)) := by
  simp only [find?, findFrom_pair matchLength?_opener, Nat.zero_add]

theorem neverEmpty_standard : standard.NeverEmpty := by
  rintro c k n (h | h)
  · rw [find?_opener] at h
    obtain ⟨i, -, heq⟩ := Option.map_eq_some_iff.1 h
    cases heq
    rw [standardOpenerSize]
    split <;> omega
  · rw [find?_closer] at h
    obtain ⟨i, -, heq⟩ := Option.map_eq_some_iff.1 h
    cases heq
    omega

end Delimiters

end Scriptlet
