import Scriptlet.Proofs.BuildAlike
import Scriptlet.Proofs.Rebuild

/-!
# What a view shows does not depend on its past

A view shows the decorations that a view set up anew would give the document it was last built for, kept
spans or not (`run_eq_setUp`). The invariant of its calls is `Shows`: the view is as it was set up but for
its cache and its decorations, the cache holds nothing but what highlighting gives, and the decorations
are those of the document without a cache (`View.plain`).
-/

namespace Scriptlet

/-- The settings with which no spans are kept. -/
def Settings.keepingNothing (s : Settings) : Settings :=
  { s with highlight := { s.highlight with memoize := false } }

namespace View
variable {v v₀ : View} {doc : Document} {settings : Settings}

/-! ### Calls -/

/-- What a host asks of a view. -/
inductive Call where
  | update (doc : Document) (u : ViewUpdate)
  | rebuild (doc : Document)

/-- The document that the call builds decorations for, if it builds any. -/
def Call.built? : Call → Option Document
  | update doc u => if u.needsRebuild then some doc else none
  | rebuild doc => some doc

/-- The view after the call. -/
def call (v : View) : Call → View
  | .update doc u => (v.update doc u).2.1
  | .rebuild doc => (v.rebuild doc).1

/-- The view after the calls. -/
def run (v : View) (calls : List Call) : View :=
  calls.foldl call v

/-- The document that the last of the calls built decorations for, or the one given if none did. -/
def lastBuilt (doc : Document) (calls : List Call) : Document :=
  calls.foldl (fun doc c => c.built?.getD doc) doc

/-- Where a view takes its grammar from. -/
inductive Source where
  | grammar (g : Grammar)
  /-- The settings name a language, which is read with the parser. -/
  | language (parser : List Char → Option SyntaxNode)

/-- Sets up a view of the document. -/
def Source.setUp : Source → Settings → Document → Except ViewError (View × List Event)
  | grammar g, settings, doc => new settings g doc
  | language parser, settings, doc => ofSettings parser settings doc

/-! ### The invariant -/

/-- The decorations of the document where nothing is kept. -/
def plain (v : View) (doc : Document) : Decorations :=
  (decorate v.settings doc (scan v.delimiters doc).regions (highlighter v.grammar v.styles) none).1

/-- The second view has come from the first, and its decorations are those of the document. -/
def Shows (v₀ : View) (doc : Document) (v : View) : Prop :=
  ∃ cache, Holds cache v₀.answer ∧ v = { v₀ with cache, state := .fresh, decorations := v₀.plain doc }

/-- A cache that holds what highlighting gives makes no difference to the decorations. -/
theorem rebuild_decorations (h : Holds v.cache v.answer) (doc : Document) :
    (v.rebuild doc).1.decorations = v.plain doc := by
  have hans := answers_highlighter v
  have hnone : Holds (none : Option FragmentCache) v.answer := by rintro c ⟨⟩
  exact Build.decorate_congr v.settings doc _ hans hans (holds_begin h) hnone

theorem shows_rebuild {cache : Option FragmentCache} {state : ViewState} {shown : Decorations}
    (h : Holds cache v₀.answer) (doc : Document) :
    Shows v₀ doc ({ v₀ with cache, state, decorations := shown }.rebuild doc).1 := by
  have hcache := holds_rebuild (v := { v₀ with cache, state, decorations := shown }) h doc
  have hshown := rebuild_decorations (v := { v₀ with cache, state, decorations := shown }) h doc
  refine ⟨_, hcache, ?_⟩
  rw [show v₀.plain doc = _ from hshown.symm]
  rfl

theorem update_of_needsRebuild {u : ViewUpdate} (hu : u.needsRebuild = true) (v : View) (doc : Document) :
    v.update doc u = (true, { v with state := .stale }.rebuild doc) := by
  rw [View.update, if_pos hu]

theorem update_of_not_needsRebuild {u : ViewUpdate} (hu : u.needsRebuild = false) (v : View) (doc : Document) :
    v.update doc u = (false, v, []) := by
  rw [View.update, hu]
  rfl

theorem Shows.call (h : Shows v₀ doc v) (c : Call) : Shows v₀ (c.built?.getD doc) (v.call c) := by
  obtain ⟨cache, hcache, rfl⟩ := h
  cases c with
  | rebuild doc' => exact shows_rebuild hcache doc'
  | update doc' u =>
    cases hu : u.needsRebuild with
    | true =>
      simp only [View.call, Call.built?, hu, ↓reduceIte, Option.getD_some, update_of_needsRebuild hu]
      exact shows_rebuild hcache doc'
    | false =>
      simp only [View.call, Call.built?, hu, Bool.false_eq_true, ↓reduceIte, Option.getD_none,
        update_of_not_needsRebuild hu]
      exact ⟨cache, hcache, rfl⟩

theorem Shows.run (h : Shows v₀ doc v) (calls : List Call) : Shows v₀ (lastBuilt doc calls) (v.run calls) := by
  induction calls generalizing v doc with
  | nil => exact h
  | cons c calls ih => exact ih (h.call c)

/-! ### Setting up -/

theorem holds_unbuilt (settings : Settings) (d : Delimiters) (g : Grammar) :
    Holds (unbuilt settings d g).cache (unbuilt settings d g).answer := by
  intro c hc e he
  unfold unbuilt at hc
  dsimp only at hc
  split at hc
  · cases hc
    cases he
  · cases hc

/-- Whatever the source, the delimiters and the grammar do not depend on whether spans are kept. -/
theorem Source.setUp_eq {source : Source} {es : List Event} (h : source.setUp settings doc = .ok (v, es)) :
    ∃ d g, v = (View.setUp settings d g doc).1 ∧ ∀ doc', ∃ es',
      source.setUp settings.keepingNothing doc' = .ok ((View.setUp settings.keepingNothing d g doc').1, es') := by
  cases source with
  | grammar g =>
    cases hd : settings.delimiters.compile with
    | error e => simp [Source.setUp, new, hd] at h
    | ok d =>
      simp only [Source.setUp, new, hd, Except.ok.injEq] at h
      refine ⟨d, g, (congrArg Prod.fst h).symm, fun doc' =>
        ⟨(View.setUp settings.keepingNothing d g doc').2, ?_⟩⟩
      simp only [Source.setUp, new, Settings.keepingNothing, hd]
  | language parser =>
    cases hg : Language.grammar parser settings.highlight.language with
    | error e => simp [Source.setUp, ofSettings, hg] at h
    | ok inner =>
      cases hd : settings.delimiters.compile with
      | error e => simp [Source.setUp, ofSettings, hg, hd] at h
      | ok d =>
        simp only [Source.setUp, ofSettings, new, hg, hd, Except.map, Except.ok.injEq] at h
        refine ⟨d, inner.template d, (congrArg Prod.fst h).symm, fun doc' =>
          ⟨.highlightingWith (inner.template d).name ::
            (View.setUp settings.keepingNothing d (inner.template d) doc').2, ?_⟩⟩
        simp only [Source.setUp, ofSettings, new, Settings.keepingNothing, hg, hd, Except.map]

/-! ### Runs -/

/-- The view is up to date, and shows what the other shows. -/
structure ShowsAs (v w : View) : Prop where
  state : v.state = .fresh
  decorations : v.decorations = w.decorations
  /-- A scan ends in the one view just where it ends in the other. -/
  endless : ∀ doc, (scan v.delimiters doc).endless = (scan w.delimiters doc).endless
  /-- An update says whether it has built decorations. -/
  rebuilds : ∀ doc u, (v.update doc u).1 = (u.documentChanged || u.viewportChanged)
  /-- If it has not, it leaves everything as it was. -/
  idle : ∀ doc u, (v.update doc u).1 = false → (v.update doc u).2.1.decorations = v.decorations ∧
    (v.update doc u).2.1.cacheStats = v.cacheStats

theorem rebuilds_update (v : View) (doc : Document) (u : ViewUpdate) :
    (v.update doc u).1 = (u.documentChanged || u.viewportChanged) := by
  cases hu : u.needsRebuild with
  | true => exact (congrArg Prod.fst (update_of_needsRebuild hu v doc)).trans hu.symm
  | false => exact (congrArg Prod.fst (update_of_not_needsRebuild hu v doc)).trans hu.symm

theorem update_idle {u : ViewUpdate} (h : (v.update doc u).1 = false) : (v.update doc u).2.1 = v := by
  rw [update_of_not_needsRebuild ((rebuilds_update v doc u).symm.trans h)]

/-- Whatever is asked of a view that has been set up, it shows what a view that keeps nothing shows when it is
set up for the document last built for. -/
theorem showsAs_run (settings : Settings) (d : Delimiters) (g : Grammar) (doc : Document) (calls : List Call) :
    ((setUp settings d g doc).1.run calls).ShowsAs
      (setUp settings.keepingNothing d g (lastBuilt doc calls)).1 := by
  have hset : Shows (unbuilt settings d g) doc (setUp settings d g doc).1 :=
    shows_rebuild (holds_unbuilt settings d g) doc
  have hshown := rebuild_decorations (holds_unbuilt settings.keepingNothing d g) (lastBuilt doc calls)
  obtain ⟨cache, -, hrun⟩ := hset.run calls
  exact {
    state := by rw [hrun]
    decorations := by
      rw [hrun]
      exact hshown.symm
    endless := by
      rw [hrun]
      exact fun _ => rfl
    rebuilds := rebuilds_update _
    idle := fun doc' u h => by
      rw [update_idle h]
      exact ⟨rfl, rfl⟩ }

/-- A view that was set up once and then called in any way shows what a view that keeps nothing shows when
it is set up for the document last built for: with any delimiters and any grammar, and so wherever settings
are accepted. -/
theorem run_eq_setUp (settings : Settings) (doc : Document) (calls : List Call) :
    (∀ d g, ((setUp settings d g doc).1.run calls).ShowsAs
      (setUp settings.keepingNothing d g (lastBuilt doc calls)).1) ∧
    ∀ (source : Source) (v : View) (es : List Event), source.setUp settings doc = .ok (v, es) →
      ∃ w es', source.setUp settings.keepingNothing (lastBuilt doc calls) = .ok (w, es') ∧
        (v.run calls).ShowsAs w := by
  refine ⟨fun d g => showsAs_run settings d g doc calls, fun source v es h => ?_⟩
  obtain ⟨d, g, rfl, hanew⟩ := Source.setUp_eq h
  obtain ⟨es', hes'⟩ := hanew (lastBuilt doc calls)
  exact ⟨_, es', hes', showsAs_run settings d g doc calls⟩

/-- Settings by which spans are kept. -/
def keeping : Settings := { highlight := { memoize := true } }

/-- A view with the standard delimiters that keeps spans and knows only one tree, set up for a document. -/
def twistedBuilt (doc : Document) : View × List Event :=
  setUp keeping .standard (.fixed twistedTree) doc

theorem run_eq_setUp_twisted :
    (Source.grammar (.fixed twistedTree)).setUp keeping (.ofString "<%b%>") =
        .ok ((twistedBuilt (.ofString "<%b%>")).1, (twistedBuilt (.ofString "<%b%>")).2) ∧
      ∃ w es', (Source.grammar (.fixed twistedTree)).setUp {} (.ofString "a <%b%><%b%>") = .ok (w, es') ∧
        ((twistedBuilt (.ofString "<%b%>")).1.run
          [.update (.ofString "a <%b%><%b%>") { viewportChanged := true }, .update .empty {}]).ShowsAs w := by
  have hset : (Source.grammar (.fixed twistedTree)).setUp keeping (.ofString "<%b%>") =
      .ok ((twistedBuilt (.ofString "<%b%>")).1, (twistedBuilt (.ofString "<%b%>")).2) := rfl
  exact ⟨hset, (run_eq_setUp keeping (.ofString "<%b%>")
    [.update (.ofString "a <%b%><%b%>") { viewportChanged := true }, .update .empty {}]).2 _ _ _ hset⟩

end View

end Scriptlet
