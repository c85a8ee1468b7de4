import Scriptlet.Proofs.BuildSteps
import Scriptlet.Proofs.StandardSearch
import Scriptlet.View

/-!
# What a rebuild publishes

A rebuild gives exactly the marks of the regions in order, each region's own and those of its spans, and
warns of the regions that could not be highlighted and of nothing else (`rebuild_published`). Regions come
in order from the scan, spans tile their fragment, and the builder refuses nothing that comes in order
(`Build.adds_regions`). A cache changes nothing in this, as all that it ever holds is what highlighting
would give (`FragmentCache.Holds`), and a view that was reached by rebuilds has no other
(`View.Reachable.holds`).
-/

namespace Scriptlet

/-! ### The order of marks -/

namespace Region
variable {a b : Nat} {doc : Document} {answer : Answer} {settings : DecorationSettings} {r : Region}
  {spans : List Span} {m : Mark}

theorem spanMarks_within (h : Span.Tiles a b spans) {start : Nat} (hm : m ∈ spanMarks start spans) :
    start + a ≤ m.start ∧ m.start < m.stop ∧ m.stop ≤ start + b := by
  obtain ⟨span, hspan, hcls⟩ := List.mem_filterMap.1 hm
  obtain ⟨cls, -, rfl⟩ := Option.map_eq_some_iff.1 hcls
  obtain ⟨hle, hlt, hstop⟩ := h.within span.range (List.mem_map_of_mem hspan)
  simp only [Span.range] at hle hlt hstop
  exact ⟨Nat.add_le_add_left hle _, Nat.add_lt_add_left hlt _, Nat.add_le_add_left hstop _⟩

theorem pairwise_spanMarks (h : Span.Tiles a b spans) (start : Nat) :
    (spanMarks start spans).Pairwise fun x y => x.stop ≤ y.start := by
  refine (List.pairwise_map.1 h.pairwise).filterMap _ fun s t hst x hx y hy => ?_
  obtain ⟨_, -, rfl⟩ := Option.map_eq_some_iff.1 hx
  obtain ⟨_, -, rfl⟩ := Option.map_eq_some_iff.1 hy
  exact Nat.add_le_add_left hst start

theorem tokenMarks_within (htiles : Answer.Tiles answer)
    (hlt : r.start < r.stop) (hstop : r.stop ≤ doc.length) (hm : m ∈ r.tokenMarks doc answer) :
    r.start ≤ m.start ∧ m.start < m.stop ∧ m.stop ≤ r.stop := by
  rw [tokenMarks] at hm
  split at hm
  · rename_i spans hspans
    have := spanMarks_within (htiles _ _ hspans) hm
    rw [length_fragment hstop] at this
    omega
  · cases hm

theorem pairwise_tokenMarks (htiles : Answer.Tiles answer) :
    (r.tokenMarks doc answer).Pairwise fun x y => x.stop ≤ y.start := by
  rw [tokenMarks]
  split
  · exact pairwise_spanMarks (htiles _ _ ‹_›) r.start
  · exact .nil

/-- Token marks of different regions do not meet either. -/
theorem Ordered.pairwise_tokenMarks
    (htiles : Answer.Tiles answer) {rs : List Region} (h : Ordered 0 doc.length rs) :
    (rs.flatMap fun r => r.tokenMarks doc answer).Pairwise fun x y => x.stop ≤ y.start := by
  refine List.pairwise_flatMap.2 ⟨fun r _ => Region.pairwise_tokenMarks htiles, ?_⟩
  refine h.pairwise.imp_of_mem fun {r s} hr hs hrs x hx y hy => ?_
  obtain ⟨-, hlt, hstop⟩ := h.within r hr
  obtain ⟨-, hlt', hstop'⟩ := h.within s hs
  have := tokenMarks_within htiles hlt hstop hx
  have := tokenMarks_within htiles hlt' hstop' hy
  omega

/-- The mark of a region comes before those in it, and these before those of the next region. -/
theorem Ordered.pairwise_marks
    (htiles : Answer.Tiles answer) {rs : List Region} (h : Ordered 0 doc.length rs) :
    (rs.flatMap fun r => r.inlineMarks settings ++ r.tokenMarks doc answer).Pairwise
      fun x y => anchor x ≤ anchor y := by
  have hinline : ∀ r m, m ∈ inlineMarks settings r → m.start = r.start := by
    intro r m hm
    rw [inlineMarks] at hm
    split at hm
    · cases hm
    · rw [List.mem_singleton.1 hm]
  refine List.pairwise_flatMap.2 ⟨fun r hr => ?_, ?_⟩
  · obtain ⟨-, hlt, hstop⟩ := h.within r hr
    refine List.pairwise_append.2 ⟨?_, ?_, fun x hx y hy => ?_⟩
    · rw [inlineMarks]
      split
      · exact .nil
      · exact List.pairwise_singleton _ _
    · refine (Region.pairwise_tokenMarks htiles).imp_of_mem fun {x y} hx _ hxy => ?_
      have := tokenMarks_within htiles hlt hstop hx
      show x.start ≤ y.start
      omega
    · have := tokenMarks_within htiles hlt hstop hy
      have := hinline r x hx
      show x.start ≤ y.start
      omega
  · -- in the region before, every anchor is in front of its end
    have hfirst : ∀ r ∈ rs, ∀ x ∈ inlineMarks settings r ++ r.tokenMarks doc answer,
        r.start ≤ x.start ∧ x.start < r.stop := by
      intro r hr x hx
      obtain ⟨-, hlt, hstop⟩ := h.within r hr
      rcases List.mem_append.1 hx with hx | hx
      · have := hinline r x hx
        omega
      · have := tokenMarks_within htiles hlt hstop hx
        omega
    refine h.pairwise.imp_of_mem fun {r s} hr hs hrs x hx y hy => ?_
    have := hfirst r hr x hx
    have := hfirst s hs y hy
    show x.start ≤ y.start
    omega

end Region

/-! ### The cache -/

namespace FragmentCache
variable {c : FragmentCache} {answer : Answer} {text : List Char}

/-- Every entry has the spans that highlighting its fragment gives. -/
def Holds (c : FragmentCache) (answer : Answer) : Prop :=
  ∀ e ∈ c.entries, answer e.fragment = .ok e.spans

theorem Holds.finish (h : c.Holds answer) : c.finish.Holds answer :=
  fun e he => h e (List.mem_filter.1 he).1

theorem Holds.touch (h : c.Holds answer) (text : List Char) : (c.touch text).Holds answer := by
  intro e he
  obtain ⟨d, hd, rfl⟩ := List.mem_map.1 he
  rw [Entry.fragment_stamp, Entry.spans_stamp]
  exact h d hd

theorem Holds.insert {spans : List Span} (h : c.Holds answer) (hspans : answer text = .ok spans) :
    (c.insert text spans).Holds answer := by
  intro e he
  rcases Keyed.mem_set.1 he with rfl | ⟨he, -⟩
  · exact hspans
  · exact h e he

/-- What is kept is what would be computed, and what is computed is kept. -/
theorem Holds.get {ω : Type} (h : c.Holds answer) (compute : Unit → Except SyntaxError (List Span) × ω)
    (hcompute : (compute ()).1 = answer text) :
    (c.get text compute).1.1 = answer text ∧
      ((c.get text compute).1.2 = none ∨ (c.get text compute).1.2 = some (compute ()).2) ∧
      (c.get text compute).2.Holds answer := by
  rw [FragmentCache.get]
  cases hfind : c.find? text with
  | some e =>
    have hspans := h e (List.mem_of_find?_eq_some hfind)
    rw [Keyed.key_of_find? hfind] at hspans
    exact ⟨hspans.symm, .inl rfl, h.touch text⟩
  | none =>
    rcases hsaid : compute () with ⟨_ | spans, told⟩ <;> rw [hsaid] at hcompute
    · exact ⟨hcompute, .inr rfl, h⟩
    · exact ⟨hcompute, .inr rfl, Holds.insert (c := c.miss) h hcompute.symm⟩

end FragmentCache

namespace View
variable {v : View} {doc : Document}

/-- What highlighting says in a view. -/
def answer (v : View) : Answer := fun text => (highlight v.grammar v.styles text).1

/-- What the cache holds, if there is one. -/
def Holds (cache : Option FragmentCache) (answer : Answer) : Prop := ∀ c, cache = some c → c.Holds answer

/-- A view set up without spans kept, and any view that updates and rebuilds lead to from there. -/
inductive Reachable : View → Prop where
  | setUp (v : View) : v.cache = none ∨ v.cache = some {} → Reachable v
  | rebuild {v : View} (doc : Document) : Reachable v → Reachable (v.rebuild doc).1
  | update {v : View} (doc : Document) (u : ViewUpdate) : Reachable v → Reachable (v.update doc u).2.1

theorem highlight_quiet (g : Grammar) (styles : StyleTable) (text : List Char) :
    ∀ e ∈ (highlight g styles text).2, e.isWarning = false := by
  cases text with
  | nil => simp [highlight]
  | cons c cs =>
    cases hparse : g.parse (c :: cs) with
    | error e => simp [highlight, hparse]
    | ok t => simp [highlight, hparse, Event.isWarning, Event.level]

theorem tiles_answer (v : View) : v.answer.Tiles := by
  intro text spans h
  cases text with
  | nil => cases h; exact rfl
  | cons c cs =>
    cases hparse : v.grammar.parse (c :: cs) with
    | error e => simp [answer, highlight, hparse] at h
    | ok t =>
      rw [answer, highlight_of_parse v.styles hparse] at h
      cases h
      exact tiling_spansOf ..

theorem answers_highlighter (v : View) :
    Build.Answers (highlighter v.grammar v.styles) (Holds · v.answer) v.answer where
  spans text st hst := by
    cases st with
    | none => rfl
    | some c => exact ((hst c rfl).get (fun _ => highlight v.grammar v.styles text) rfl).1
  quiet text st hst e he := by
    cases st with
    | none => exact highlight_quiet _ _ _ e he
    | some c =>
      obtain ⟨-, htold, -⟩ := (hst c rfl).get (fun _ => highlight v.grammar v.styles text) rfl
      rw [highlighter] at he
      rcases htold with htold | htold
      · simp [htold] at he
      · simp only [htold, Option.getD_some] at he
        exact highlight_quiet _ _ _ e he
  keeps text st hst := by
    cases st with
    | none => exact fun c hc => by cases hc
    | some c =>
      rintro _ ⟨⟩
      exact ((hst c rfl).get (fun _ => highlight v.grammar v.styles text) rfl).2.2
  tiles := tiles_answer v

theorem holds_begin (h : Holds v.cache v.answer) : Holds (v.cache.map (·.begin)) v.answer := by
  intro c hc
  obtain ⟨c', hc', rfl⟩ := Option.map_eq_some_iff.1 hc
  exact h c' hc'

/-- A rebuild leaves nothing in the cache but what highlighting gives, whatever the delimiters are. -/
theorem holds_rebuild (h : Holds v.cache v.answer) (doc : Document) :
    Holds (v.rebuild doc).1.cache v.answer := by
  have hend := Build.good_regions v.settings doc (answers_highlighter v) (holds_begin h) {}
    (scan v.delimiters doc).regions
  intro c hc
  obtain ⟨c', hc', rfl⟩ := Option.map_eq_some_iff.1 hc
  exact (hend c' hc').finish

theorem Reachable.holds (h : v.Reachable) : Holds v.cache v.answer := by
  induction h with
  | setUp v h =>
    intro c hc
    rcases h with h | h <;> rw [h] at hc <;> cases hc
    intro e he
    cases he
  | rebuild doc _ ih => exact holds_rebuild ih doc
  | @update v doc u _ ih =>
    rw [View.update]
    split
    · exact holds_rebuild (v := { v with state := .stale }) ih doc
    · exact ih

theorem reachable_new {settings : Settings} {grammar : Grammar} {doc : Document} {es : List Event}
    (h : new settings grammar doc = .ok (v, es)) : v.Reachable := by
  rw [new] at h
  cases hcompile : settings.delimiters.compile with
  | error e => rw [hcompile] at h; cases h
  | ok d =>
    rw [hcompile] at h
    cases h
    refine .rebuild doc (.setUp _ ?_)
    rw [unbuilt]
    cases settings.highlight.memoize
    · exact .inl rfl
    · exact .inr rfl

/-- The decorations and events are those of the regions: nothing is missing, added or out of order. -/
structure Published (v : View) (doc : Document) (rs : List Region) (d : Decorations) (events : List Event) :
    Prop where
  /-- Every region is in the document. -/
  slices : ∀ r ∈ rs, doc.slice r.start r.stop = .ok (r.fragment doc)
  marks : d.marks = rs.flatMap fun r => r.inlineMarks v.settings ++ r.tokenMarks doc v.answer
  unhighlighted : d.unhighlighted = rs.filter fun r => (r.failure? doc v.answer).isSome
  /-- No decoration is refused and no region skipped. -/
  warnings : events.filter Event.isWarning =
    rs.filterMap fun r => (r.failure? doc v.answer).map (Event.unhighlighted r)
  anchors : d.marks.Pairwise fun x y => anchor x ≤ anchor y
  disjoint : (rs.flatMap fun r => r.tokenMarks doc v.answer).Pairwise fun x y => x.stop ≤ y.start
  inside : ∀ r ∈ rs, ∀ m ∈ r.tokenMarks doc v.answer, r.start ≤ m.start ∧ m.start < m.stop ∧ m.stop ≤ r.stop

/-- What the run over the regions of the document adds to an empty builder. -/
theorem adds_rebuild (hv : v.Reachable) (hd : v.delimiters.NeverEmpty) (doc : Document) :
    Build.Adds {} (Build.regions v.settings doc (highlighter v.grammar v.styles) {} (v.cache.map (·.begin))
        (scan v.delimiters doc).regions).1
      ((scan v.delimiters doc).regions.flatMap fun r => r.inlineMarks v.settings ++ r.tokenMarks doc v.answer)
      ((scan v.delimiters doc).regions.filter fun r => (r.failure? doc v.answer).isSome)
      ((scan v.delimiters doc).regions.filterMap fun r =>
        (r.failure? doc v.answer).map (Event.unhighlighted r)) :=
  Build.adds_regions v.settings (answers_highlighter v) (holds_begin hv.holds) (Build.upTo_zero doc)
    (ordered_scan hd doc).1

theorem marks_rebuild (hv : v.Reachable) (hd : v.delimiters.NeverEmpty) (doc : Document) :
    (v.rebuild doc).1.decorations.marks = (scan v.delimiters doc).regions.flatMap fun r =>
      r.inlineMarks v.settings ++ r.tokenMarks doc v.answer :=
  (adds_rebuild hv hd doc).marks

theorem unhighlighted_rebuild (hv : v.Reachable) (hd : v.delimiters.NeverEmpty) (doc : Document) :
    (v.rebuild doc).1.decorations.unhighlighted =
      (scan v.delimiters doc).regions.filter fun r => (r.failure? doc v.answer).isSome :=
  (adds_rebuild hv hd doc).unhighlighted

theorem unterminated_quiet (found : Scan.Found) : (unterminated found).filter Event.isWarning = [] := by
  rw [unterminated]
  split <;> rfl

/-- Whatever a view has been through, a rebuild publishes the decorations of the document's regions. -/
theorem rebuild_published (hv : v.Reachable) (hd : v.delimiters.NeverEmpty) (doc : Document) :
    (v.rebuild doc).1.state = .fresh ∧
      v.Published doc (scan v.delimiters doc).regions (v.rebuild doc).1.decorations (v.rebuild doc).2 := by
  have hord := (ordered_scan hd doc).1
  have htiles := tiles_answer v
  have hmarks := marks_rebuild hv hd doc
  refine ⟨rfl, ⟨fun r hr => ?_, hmarks, unhighlighted_rebuild hv hd doc, ?_, ?_, hord.pairwise_tokenMarks htiles,
    fun r hr m hm => ?_⟩⟩
  · obtain ⟨-, hlt, hstop⟩ := hord.within r hr
    exact Region.slice_eq (Nat.le_of_lt hlt) hstop
  · show List.filter Event.isWarning (_ ++ _ ++ [Event.rebuilt _ _ _ _]) = _
    rw [List.filter_append, List.filter_append, unterminated_quiet, List.nil_append]
    exact (List.append_nil _).trans (adds_rebuild hv hd doc).warnings
  · rw [hmarks]
    exact hord.pairwise_marks htiles
  · obtain ⟨-, hlt, hstop⟩ := hord.within r hr
    exact Region.tokenMarks_within htiles hlt hstop hm

/-- A view with the standard delimiters that keeps spans and knows only one tree. -/
def twisted : View where
  delimiters := .standard
  grammar := .fixed twistedTree
  styles := .standard
  settings := {}
  cache := some {}
  state := .stale
  decorations := .empty

theorem rebuild_published_twisted :
    twisted.Reachable ∧ twisted.delimiters.NeverEmpty ∧
      twisted.Published (.ofString "a <%b%><%b%>") (scan .standard (.ofString "a <%b%><%b%>")).regions
        (twisted.rebuild (.ofString "a <%b%><%b%>")).1.decorations (twisted.rebuild (.ofString "a <%b%><%b%>")).2 :=
  ⟨.setUp _ (.inr rfl), Delimiters.neverEmpty_standard,
    (rebuild_published (.setUp twisted (.inr rfl)) Delimiters.neverEmpty_standard (.ofString "a <%b%><%b%>")).2⟩

end View

end Scriptlet
