import Mathlib.Data.List.Infix
import Mathlib.Data.List.Nodup
import Scriptlet.FragmentCache

/-!
# What a cache holds after any calls

The calls of a cache may come in any order: gets before anything was begun, several begins in a row, gets between
the end of a generation and the next. Whatever they were, a fragment that is held has the spans of the
computation that brought it in (`Created`), and closing a generation leaves what was got in it (`Used`). The
invariant that ties the stamps of the entries to the calls is `Accounts`; it needs that generations have not
come round yet. The account of all this is `run_history`.
-/

namespace Scriptlet.FragmentCache
variable {ε ω : Type} {c : FragmentCache} {f g : List Char} {spans : List Span}
  {compute : Unit → Except ε (List Span) × ω}

/-- The spans kept for the fragment. -/
def held (c : FragmentCache) (f : List Char) : Option (List Span) :=
  (c.find? f).map (·.spans)

/-- The generation has used the entry of the fragment. -/
def Current (c : FragmentCache) (f : List Char) : Prop :=
  ∃ e ∈ c.entries, e.fragment = f ∧ e.generation = c.generation

theorem find?_eq_some {e : Entry} : c.find? f = some e ↔ e ∈ c.entries ∧ e.fragment = f :=
  Keyed.find?_eq_some c.distinct

theorem held_eq_some : c.held f = some spans ↔ ∃ e ∈ c.entries, e.fragment = f ∧ e.spans = spans := by
  simp only [held, Option.map_eq_some_iff, find?_eq_some, and_assoc]

theorem isSome_held : (c.held f).isSome ↔ ∃ e ∈ c.entries, e.fragment = f := by
  simp [Option.isSome_iff_exists, held_eq_some]

/-! ### What a call does to the entries -/

section
variable {e : Entry}

theorem mem_touch : e ∈ (c.touch f).entries ↔ ∃ d ∈ c.entries, d.stamp f c.generation = e :=
  List.mem_map

theorem mem_insert :
    e ∈ (c.insert f spans).entries ↔ e = ⟨f, spans, c.generation⟩ ∨ e ∈ c.entries ∧ e.fragment ≠ f :=
  Keyed.mem_set

theorem mem_finish : e ∈ c.finish.entries ↔ e ∈ c.entries ∧ e.generation = c.generation := by
  simp [FragmentCache.finish]

end

theorem held_touch (c : FragmentCache) (f g : List Char) : (c.touch f).held g = c.held g := by
  rw [held, find?, touch, Keyed.find?_map (Entry.fragment_stamp f c.generation), Option.map_map, held, find?]
  congr 1
  funext e
  exact Entry.spans_stamp ..

theorem held_insert (c : FragmentCache) (f : List Char) (spans : List Span) (g : List Char) :
    (c.insert f spans).held g = if f = g then some spans else c.held g := by
  rw [held, find?, insert, Keyed.find?_set]
  split <;> rfl

theorem current_touch (hf : (c.held f).isSome) : (c.touch f).Current g ↔ g = f ∨ c.Current g := by
  constructor
  · rintro ⟨e, he, rfl, hgeneration⟩
    obtain ⟨d, hd, rfl⟩ := mem_touch.1 he
    rw [Entry.fragment_stamp]
    by_cases hfragment : d.fragment = f
    · exact .inl hfragment
    · rw [Entry.stamp, if_neg hfragment] at hgeneration
      exact .inr ⟨d, hd, rfl, hgeneration⟩
  · intro h
    obtain ⟨d, hd, rfl, hstamp⟩ : ∃ d ∈ c.entries, d.fragment = g ∧
        (d.stamp f c.generation).generation = c.generation := by
      rcases h with rfl | ⟨d, hd, rfl, hgeneration⟩
      · obtain ⟨d, hd, hfragment⟩ := isSome_held.1 hf
        exact ⟨d, hd, hfragment, by rw [Entry.stamp, if_pos hfragment]⟩
      · refine ⟨d, hd, rfl, ?_⟩
        rw [Entry.stamp]
        split
        · rfl
        · exact hgeneration
    exact ⟨_, mem_touch.2 ⟨d, hd, rfl⟩, Entry.fragment_stamp .., hstamp⟩

theorem current_insert : (c.insert f spans).Current g ↔ g = f ∨ c.Current g := by
  constructor
  · rintro ⟨e, he, rfl, hgeneration⟩
    rcases mem_insert.1 he with rfl | ⟨he, -⟩
    · exact .inl rfl
    · exact .inr ⟨e, he, rfl, hgeneration⟩
  · intro h
    by_cases hg : g = f
    · subst hg
      exact ⟨_, mem_insert.2 (.inl rfl), rfl, rfl⟩
    · obtain ⟨e, he, rfl, hgeneration⟩ := h.resolve_left hg
      exact ⟨e, mem_insert.2 (.inr ⟨he, hg⟩), rfl, hgeneration⟩

theorem current_finish : c.finish.Current f ↔ c.Current f := by
  constructor
  · rintro ⟨e, he, hf, hgeneration⟩
    exact ⟨e, (mem_finish.1 he).1, hf, hgeneration⟩
  · rintro ⟨e, he, hf, hgeneration⟩
    exact ⟨e, mem_finish.2 ⟨he, hgeneration⟩, hf, hgeneration⟩

theorem isSome_held_finish : (c.finish.held f).isSome ↔ c.Current f := by
  rw [isSome_held]
  constructor
  · rintro ⟨e, he, hf⟩
    obtain ⟨he, hgeneration⟩ := mem_finish.1 he
    exact ⟨e, he, hf, hgeneration⟩
  · rintro ⟨e, he, hf, hgeneration⟩
    exact ⟨e, mem_finish.2 ⟨he, hgeneration⟩, hf⟩

/-! ### Gets -/

/-- A get finds the fragment, or computes spans and keeps them, or fails to. -/
theorem get_cases (c : FragmentCache) (f : List Char) (compute : Unit → Except ε (List Span) × ω) :
    (∃ spans, c.held f = some spans ∧ c.get f compute = ((.ok spans, none), (c.touch f).hit)) ∨
      (∃ spans told, c.held f = none ∧ compute () = (.ok spans, told) ∧
        c.get f compute = ((.ok spans, some told), c.miss.insert f spans)) ∨
      ∃ e told, c.held f = none ∧ compute () = (.error e, told) ∧
        c.get f compute = ((.error e, some told), c.miss) := by
  unfold get held
  rcases hfind : c.find? f with _ | e
  · rcases hsaid : compute () with ⟨e | spans, told⟩
    · exact .inr (.inr ⟨e, told, rfl, rfl, rfl⟩)
    · exact .inr (.inl ⟨spans, told, rfl, rfl, rfl⟩)
  · exact .inl ⟨e.spans, rfl, rfl⟩

theorem get_of_held (h : c.held f = some spans) : (c.get f compute).1 = (.ok spans, none) := by
  rcases get_cases c f compute with ⟨spans', hheld, hget⟩ | ⟨_, _, hheld, -, -⟩ | ⟨_, _, hheld, -, -⟩
  · rw [hget, Option.some.inj (h.symm.trans hheld)]
  · rw [h] at hheld
    cases hheld
  · rw [h] at hheld
    cases hheld

theorem get_of_not_held (h : c.held f = none) :
    (c.get f compute).1 = ((compute ()).1, some (compute ()).2) := by
  rcases get_cases c f compute with ⟨spans, hheld, -⟩ | ⟨spans, told, -, hsaid, hget⟩ | ⟨e, told, -, hsaid, hget⟩
  · rw [h] at hheld
    cases hheld
  · rw [hget, hsaid]
  · rw [hget, hsaid]

/-- A get keeps what it answers, and changes the spans of no other fragment. -/
theorem held_get (c : FragmentCache) (f g : List Char) (compute : Unit → Except ε (List Span) × ω) :
    (c.get f compute).2.held g = if g = f then (c.get f compute).1.1.toOption else c.held g := by
  rcases get_cases c f compute with ⟨spans, hheld, hget⟩ | ⟨spans, told, hheld, -, hget⟩ | ⟨e, told, hheld, -, hget⟩ <;>
    rw [hget]
  · show (c.touch f).held g = _
    rw [held_touch]
    split
    · subst g
      exact hheld
    · rfl
  · rw [held_insert]
    by_cases hg : g = f
    · rw [if_pos hg, if_pos hg.symm]
      rfl
    · rw [if_neg hg, if_neg (Ne.symm hg)]
      rfl
  · show c.held g = _
    split
    · subst g
      exact hheld
    · rfl

theorem generation_get (c : FragmentCache) (f : List Char) (compute : Unit → Except ε (List Span) × ω) :
    (c.get f compute).2.generation = c.generation := by
  rcases get_cases c f compute with ⟨_, -, hget⟩ | ⟨_, _, -, -, hget⟩ | ⟨_, _, -, -, hget⟩ <;> rw [hget] <;> rfl

theorem stamped_get (h : ∀ e ∈ c.entries, e.generation ≤ c.generation) (f : List Char)
    (compute : Unit → Except ε (List Span) × ω) :
    ∀ e ∈ (c.get f compute).2.entries, e.generation ≤ c.generation := by
  intro e he
  rcases get_cases c f compute with ⟨_, -, hget⟩ | ⟨_, _, -, -, hget⟩ | ⟨_, _, -, -, hget⟩ <;> rw [hget] at he
  · obtain ⟨d, hd, rfl⟩ := mem_touch.1 he
    rw [Entry.stamp]
    split
    · exact Nat.le_refl _
    · exact h d hd
  · rcases mem_insert.1 he with rfl | ⟨he, -⟩
    · exact Nat.le_refl _
    · exact h e he
  · exact h e he

/-- A get that gives spans uses the fragment, whether it found them or not. -/
theorem current_get (c : FragmentCache) (f g : List Char) (compute : Unit → Except ε (List Span) × ω) :
    (c.get f compute).2.Current g ↔ (g = f ∧ (c.get f compute).1.1.isOk) ∨ c.Current g := by
  rcases get_cases c f compute with ⟨_, hheld, hget⟩ | ⟨_, _, -, -, hget⟩ | ⟨_, _, -, -, hget⟩ <;> rw [hget]
  · refine (current_touch (by rw [hheld]; rfl)).trans (or_congr_left ⟨fun hg => ⟨hg, rfl⟩, And.left⟩)
  · exact (current_insert (c := c.miss)).trans (or_congr_left ⟨fun hg => ⟨hg, rfl⟩, And.left⟩)
  · exact ⟨.inr, fun h => h.resolve_left fun hg => by cases hg.2⟩

/-! ### Runs -/

/-- What is asked of a cache. -/
inductive Call (ε ω : Type) where
  | begin
  | get (fragment : List Char) (compute : Unit → Except ε (List Span) × ω)
  | finish

namespace Call

def isBegin : Call ε ω → Bool
  | begin => true
  | _ => false

def isGet : Call ε ω → Bool
  | get _ _ => true
  | _ => false

end Call

/-- The cache after the call. -/
def call (c : FragmentCache) : Call ε ω → FragmentCache
  | .begin => c.begin
  | .get f compute => (c.get f compute).2
  | .finish => c.finish

/-- What the call gives, if it is a get. -/
def answer? (c : FragmentCache) : Call ε ω → Option (Except ε (List Span) × Option ω)
  | .get f compute => some (c.get f compute).1
  | _ => none

/-- The cache after the calls, from the empty one. -/
def run (calls : List (Call ε ω)) : FragmentCache :=
  calls.foldl call {}

/-- What the gets among the calls give. -/
def answers : FragmentCache → List (Call ε ω) → List (Except ε (List Span) × Option ω)
  | _, [] => []
  | c, k :: calls => (c.answer? k).toList ++ answers (c.call k) calls

/-- A get that did not find the fragment computed the spans, and the fragment has been held ever since. -/
def Created (calls : List (Call ε ω)) (f : List Char) (spans : List Span) : Prop :=
  ∃ before compute told after, calls = before ++ .get f compute :: after ∧
    (run before).held f = none ∧ compute () = (.ok spans, told) ∧
    ∀ between, between <+: after → ((run (before ++ .get f compute :: between)).held f).isSome

/-- A get gave spans for the fragment, and nothing has been begun since. -/
def Used (calls : List (Call ε ω)) (f : List Char) : Prop :=
  ∃ before compute after, calls = before ++ .get f compute :: after ∧
    ((run before).get f compute).1.1.isOk ∧ ∀ k ∈ after, k.isBegin = false

variable {calls : List (Call ε ω)} {k : Call ε ω}

theorem run_concat (calls : List (Call ε ω)) (k : Call ε ω) :
    run (calls ++ [k]) = (run calls).call k := by
  rw [run, List.foldl_concat, run]

/-! ### Where spans come from -/

/-- Spans that are held were held before, or a get has just computed them. -/
theorem held_call (hheld : (c.call k).held f = some spans) :
    c.held f = some spans ∨ ∃ compute told, k = .get f compute ∧ c.held f = none ∧
      compute () = (.ok spans, told) := by
  cases k with
  | begin => exact .inl hheld
  | finish =>
    obtain ⟨e, he, hf, hspans⟩ := held_eq_some.1 hheld
    exact .inl (held_eq_some.2 ⟨e, (mem_finish.1 he).1, hf, hspans⟩)
  | get g compute =>
    replace hheld : (c.get g compute).2.held f = some spans := hheld
    rw [held_get] at hheld
    split at hheld
    · subst g
      rcases hbefore : c.held f with _ | spans'
      · rw [get_of_not_held hbefore] at hheld
        rcases hsaid : compute () with ⟨e | spans', told⟩ <;> rw [hsaid] at hheld <;> cases hheld
        exact .inr ⟨compute, told, rfl, rfl, hsaid⟩
      · rw [get_of_held hbefore] at hheld
        exact .inl hheld
    · exact .inl hheld

theorem Created.concat (h : Created calls f spans) (hheld : ((run (calls ++ [k])).held f).isSome) :
    Created (calls ++ [k]) f spans := by
  obtain ⟨before, compute, told, after, rfl, hbefore, hsaid, hsince⟩ := h
  refine ⟨before, compute, told, after ++ [k], by simp, hbefore, hsaid, fun between hbetween => ?_⟩
  rcases List.prefix_concat_iff.1 hbetween with rfl | hbetween
  · simpa using hheld
  · exact hsince between hbetween

theorem created_of_held (calls : List (Call ε ω)) (f : List Char) {spans : List Span}
    (hheld : (run calls).held f = some spans) : Created calls f spans := by
  induction calls using List.reverseRecOn with
  | nil => cases hheld
  | append_singleton calls k ih =>
    have hstep := hheld
    rw [run_concat] at hstep
    -- the prefixes behind the get that brought the fragment in grow by this call alone
    rcases held_call hstep with hbefore | ⟨compute, told, rfl, hnone, hsaid⟩
    · exact (ih hbefore).concat (by rw [hheld]; rfl)
    · refine ⟨calls, compute, told, [], rfl, hnone, hsaid, fun between hbetween => ?_⟩
      rw [List.prefix_nil.1 hbetween, hheld]
      rfl

/-! ### What a generation has used -/

theorem used_concat : Used (calls ++ [k]) f ↔
    (∃ compute, k = .get f compute ∧ ((run calls).get f compute).1.1.isOk) ∨
      (k.isBegin = false ∧ Used calls f) := by
  constructor
  · rintro ⟨before, compute, after, heq, hok, hafter⟩
    rcases List.eq_nil_or_concat after with rfl | ⟨after, last, rfl⟩
    · obtain ⟨rfl, hlast⟩ := List.append_inj' heq rfl
      cases hlast
      exact .inl ⟨compute, rfl, hok⟩
    · have hsplit : calls ++ [k] = (before ++ .get f compute :: after) ++ [last] := by simpa using heq
      obtain ⟨rfl, hlast⟩ := List.append_inj' hsplit rfl
      cases hlast
      exact .inr ⟨hafter k (by simp), before, compute, after, rfl, hok, fun k hk => hafter k (by simp [hk])⟩
  · rintro (⟨compute, rfl, hok⟩ | ⟨hcall, before, compute, after, rfl, hok, hafter⟩)
    · exact ⟨calls, compute, [], rfl, hok, by simp⟩
    · refine ⟨before, compute, after ++ [k], by simp, hok, fun c hc => ?_⟩
      rcases List.mem_append.1 hc with hc | hc
      · exact hafter c hc
      · rw [List.mem_singleton.1 hc]
        exact hcall

/-- The stamps of the cache say what the calls have done. -/
structure Accounts (calls : List (Call ε ω)) (c : FragmentCache) : Prop where
  generation : c.generation = calls.countP Call.isBegin
  stamped : ∀ e ∈ c.entries, e.generation ≤ c.generation
  current : ∀ f, c.Current f ↔ Used calls f

theorem accounts_nil : Accounts ([] : List (Call ε ω)) {} where
  generation := rfl
  stamped e he := absurd he (by simp)
  current f := by simp [Current, Used]

theorem Accounts.begin (h : Accounts calls c) (hlimit : calls.countP Call.isBegin + 1 < generationLimit) :
    Accounts (calls ++ [.begin]) c.begin := by
  have hgeneration : c.begin.generation = c.generation + 1 := by
    have := h.generation
    exact Nat.mod_eq_of_lt (by omega)
  refine ⟨?_, fun e he => ?_, fun f => ?_⟩
  · rw [hgeneration, h.generation, List.countP_append]
    rfl
  · rw [hgeneration]
    exact (h.stamped e he).trans (Nat.le_succ _)
  · rw [used_concat]
    -- neither side holds: no entry has the new stamp yet
    constructor
    · rintro ⟨e, he, -, hstamp⟩
      have := h.stamped e he
      omega
    · rintro (⟨compute, hcall, -⟩ | ⟨hcall, -⟩)
      · cases hcall
      · cases hcall

theorem Accounts.get (h : Accounts calls (run calls)) (g : List Char)
    (compute : Unit → Except ε (List Span) × ω) :
    Accounts (calls ++ [.get g compute]) ((run calls).get g compute).2 where
  generation := by
    rw [generation_get, h.generation, List.countP_append]
    rfl
  stamped := by
    rw [generation_get]
    exact stamped_get h.stamped g compute
  current f := by
    rw [current_get, used_concat, h.current]
    refine or_congr ⟨?_, ?_⟩ ⟨fun hused => ⟨rfl, hused⟩, And.right⟩
    · rintro ⟨rfl, hok⟩
      exact ⟨compute, rfl, hok⟩
    · rintro ⟨_, ⟨⟩, hok⟩
      exact ⟨rfl, hok⟩

theorem Accounts.finish (h : Accounts calls c) : Accounts (calls ++ [.finish]) c.finish where
  generation := by
    rw [List.countP_append]
    exact h.generation
  stamped e he := h.stamped e (mem_finish.1 he).1
  current f := by
    rw [current_finish, h.current, used_concat]
    refine ⟨fun hused => .inr ⟨rfl, hused⟩, ?_⟩
    rintro (⟨compute, hcall, -⟩ | ⟨-, hused⟩)
    · cases hcall
    · exact hused

theorem accounts_run (calls : List (Call ε ω)) (hbegins : calls.countP Call.isBegin < generationLimit) :
    Accounts calls (run calls) := by
  induction calls using List.reverseRecOn with
  | nil => exact accounts_nil
  | append_singleton calls k ih =>
    rw [List.countP_append] at hbegins
    have hrun := ih (by omega)
    rw [run_concat]
    cases k with
    | begin => exact hrun.begin hbegins
    | get f compute => exact hrun.get f compute
    | finish => exact hrun.finish

/-! ### Counting -/

theorem count_call (c : FragmentCache) (k : Call ε ω) :
    (c.call k).hits + (c.call k).misses = c.hits + c.misses + [k].countP Call.isGet ∧
      (c.call k).misses = c.misses + (c.answer? k).toList.countP fun a => a.2.isSome := by
  cases k with
  | begin => exact ⟨rfl, rfl⟩
  | finish => exact ⟨rfl, rfl⟩
  | get f compute =>
    show (c.get f compute).2.hits + (c.get f compute).2.misses = _ ∧
      (c.get f compute).2.misses = c.misses + [(c.get f compute).1].countP fun a => a.2.isSome
    rcases get_cases c f compute with ⟨_, -, hget⟩ | ⟨_, _, -, -, hget⟩ | ⟨_, _, -, -, hget⟩ <;> rw [hget]
    · exact ⟨Nat.add_right_comm .., rfl⟩
    · exact ⟨rfl, rfl⟩
    · exact ⟨rfl, rfl⟩

theorem count_calls (c : FragmentCache) (calls : List (Call ε ω)) :
    (calls.foldl FragmentCache.call c).hits + (calls.foldl FragmentCache.call c).misses =
        c.hits + c.misses + calls.countP Call.isGet ∧
      (calls.foldl FragmentCache.call c).misses = c.misses + (answers c calls).countP fun a => a.2.isSome := by
  induction calls generalizing c with
  | nil => exact ⟨rfl, rfl⟩
  | cons k calls ih =>
    obtain ⟨hsum, hmisses⟩ := count_call c k
    obtain ⟨hsum_rest, hmisses_rest⟩ := ih (c.call k)
    have hcons : k :: calls = [k] ++ calls := rfl
    constructor
    · rw [List.foldl_cons, hsum_rest, hsum, hcons, List.countP_append, Nat.add_assoc]
    · rw [List.foldl_cons, hmisses_rest, hmisses, answers, List.countP_append, Nat.add_assoc]

/-! ### The whole account -/

/-- What any calls come to, while generations do not come round. A get answers what is held, which was computed
when the fragment came in, or what it computes; closing leaves what has been got since the last begin; and the
counts are those of gets and computations. -/
theorem run_history (calls : List (Call ε ω)) (hbegins : calls.countP Call.isBegin < generationLimit) :
    (∀ f (compute : Unit → Except ε (List Span) × ω),
      (∀ spans, (run calls).held f = some spans →
        Created calls f spans ∧ ((run calls).get f compute).1 = (.ok spans, none)) ∧
      ((run calls).held f = none →
        ((run calls).get f compute).1 = ((compute ()).1, some (compute ()).2)) ∧
      ∀ g, ((run calls).get f compute).2.held g =
        if g = f then ((run calls).get f compute).1.1.toOption else (run calls).held g) ∧
    (∀ f, ((run (calls ++ [.finish])).held f).isSome ↔ Used calls f) ∧
    (run calls).hits + (run calls).misses = calls.countP Call.isGet ∧
    (run calls).misses = (answers {} calls).countP fun a => a.2.isSome := by
  have haccounts := accounts_run calls hbegins
  obtain ⟨hsum, hmisses⟩ := count_calls {} calls
  refine ⟨fun f compute => ⟨fun spans hheld => ⟨created_of_held calls f hheld, get_of_held hheld⟩, get_of_not_held,
    fun g => held_get _ f g compute⟩, fun f => ?_, ?_, ?_⟩
  · rw [run_concat]
    exact isSome_held_finish.trans (haccounts.current f)
  · simpa [run] using hsum
  · simpa [run] using hmisses

/-- Gets before anything was begun, one of which fails; a fragment that is got again in a later generation, where
its computation would fail, and one that is not. -/
def mixedCalls : List (Call Unit Unit) :=
  [.get ['a'] fun _ => (.ok [⟨0, 1, none⟩], ()), .get ['b'] fun _ => (.error (), ()), .finish, .begin,
    .get ['b'] fun _ => (.ok [⟨0, 1, some "meta"⟩], ()), .begin, .get ['b'] fun _ => (.error (), ())]

theorem run_history_mixed :
    mixedCalls.countP Call.isBegin < generationLimit ∧
      Created mixedCalls ['b'] [⟨0, 1, some "meta"⟩] ∧
      (∀ f, ((run (mixedCalls ++ [.finish])).held f).isSome ↔ Used mixedCalls f) ∧
      (run mixedCalls).hits + (run mixedCalls).misses = 4 ∧
      (answers {} mixedCalls).countP (fun a => a.2.isSome) = 3 := by
  have hbegins : mixedCalls.countP Call.isBegin < generationLimit := by decide
  obtain ⟨hgets, hused, hsum, hmisses⟩ := run_history mixedCalls hbegins
  have hheld : (run mixedCalls).held ['b'] = some [⟨0, 1, some "meta"⟩] := by decide
  exact ⟨hbegins, ((hgets ['b'] fun _ => (.error (), ())).1 _ hheld).1, hused, hsum, hmisses.symm.trans (by decide)⟩

end Scriptlet.FragmentCache
