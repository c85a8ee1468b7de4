import Scriptlet.Highlight.Span
import Scriptlet.Keyed

/-! # Keeping spans

A cache keeps the spans of fragments from one rebuild to the next. Each entry carries the generation
that last used it; closing a generation drops the entries it did not use. -/

namespace Scriptlet

/-- Generations are counted modulo this number. -/
def generationLimit : Nat := 0x10000000000000000

namespace FragmentCache

/-- The spans of a fragment and the generation that last used them. -/
structure Entry where
  fragment : List Char
  spans : List Span
  generation : Nat
  deriving DecidableEq, Repr

/-- The entry as used by the generation, if it is that of the fragment. -/
def Entry.stamp (fragment : List Char) (generation : Nat) (e : Entry) : Entry :=
  if e.fragment = fragment then { e with generation } else e

@[simp] theorem Entry.fragment_stamp (fragment : List Char) (generation : Nat) (e : Entry) :
    (e.stamp fragment generation).fragment = e.fragment := by
  rw [stamp]
  split <;> rfl

@[simp] theorem Entry.spans_stamp (fragment : List Char) (generation : Nat) (e : Entry) :
    (e.stamp fragment generation).spans = e.spans := by
  rw [stamp]
  split <;> rfl

theorem distinct_nil : (([] : List Entry).map (·.fragment)).Nodup := .nil

end FragmentCache

/-- Spans by the text of their fragment. -/
structure FragmentCache where
  entries : List FragmentCache.Entry := []
  /-- No fragment has two entries. -/
  distinct : (entries.map (·.fragment)).Nodup := by exact FragmentCache.distinct_nil
  generation : Nat := 0
  hits : Nat := 0
  misses : Nat := 0
  deriving DecidableEq, Repr

namespace FragmentCache

/-- Starts a generation. -/
def begin (c : FragmentCache) : FragmentCache :=
  { c with generation := (c.generation + 1) % generationLimit }

/-- The entry of the fragment. -/
def find? (c : FragmentCache) (fragment : List Char) : Option Entry :=
  Keyed.find? Entry.fragment fragment c.entries

/-- Marks the entry of the fragment as used by the current generation. -/
def touch (c : FragmentCache) (fragment : List Char) : FragmentCache :=
  { c with
    entries := c.entries.map (Entry.stamp fragment c.generation)
    distinct := by simpa [Function.comp_def] using c.distinct }

/-- Keeps spans for the fragment, in place of any others. -/
def insert (c : FragmentCache) (fragment : List Char) (spans : List Span) : FragmentCache :=
  { c with
    entries := Keyed.set Entry.fragment ⟨fragment, spans, c.generation⟩ c.entries
    distinct := Keyed.nodup_set _ _ c.distinct }

/-- Counts a fragment that was kept. -/
def hit (c : FragmentCache) : FragmentCache := { c with hits := c.hits + 1 }

/-- Counts a fragment that was not. -/
def miss (c : FragmentCache) : FragmentCache := { c with misses := c.misses + 1 }

/-- The spans of the fragment: those kept, or those computed, which are kept from then on. Failures
are not kept. What the computation tells besides is handed on, and absent if there was none. -/
def get {ε ω : Type} (c : FragmentCache) (fragment : List Char)
    (compute : Unit → Except ε (List Span) × ω) :
    (Except ε (List Span) × Option ω) × FragmentCache :=
  match c.find? fragment with
  | some e => ((.ok e.spans, none), (c.touch fragment).hit)
  | none =>
    match compute () with
    | (.ok spans, told) => ((.ok spans, some told), c.miss.insert fragment spans)
    | (.error e, told) => ((.error e, some told), c.miss)

/-- Ends a generation: only what it used stays. -/
def finish (c : FragmentCache) : FragmentCache :=
  { c with
    entries := c.entries.filter fun e => e.generation == c.generation
    distinct := c.distinct.sublist (List.filter_sublist.map _) }

/-- The number of fragments kept. -/
def size (c : FragmentCache) : Nat := c.entries.length

/-- Nothing is kept. -/
def isEmpty (c : FragmentCache) : Bool := c.entries.isEmpty

end FragmentCache

end Scriptlet
