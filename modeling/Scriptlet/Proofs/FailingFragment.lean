import Scriptlet.Proofs.AnyRegions

/-!
# A fragment that fails

Two highlighters that differ in the reply for one fragment only, where the one gives spans and the other
fails, lead to the same decorations but for that fragment's own (`decorate_isolates`). The builder carries its
last anchor from region to region, so the spans that are missing could let other marks in; but as the regions
do not overlap, whatever is kept of the one is not behind the start of the next (`kept_without`). To tell whose
a mark is, `Candidate` has the number of its region with it.
-/

namespace Scriptlet
open Region

/-- A mark that is made for a region: the number of the region, and whether the mark is that of a span. -/
structure Candidate where
  region : Nat
  token : Bool
  mark : Mark

instance : Anchored Candidate := ⟨fun c => c.mark.start⟩

namespace Candidate
variable {settings : DecorationSettings} {c : Candidate} {n : Nat}

/-- The mark of the whole region with the number given. -/
def own (settings : DecorationSettings) (n : Nat) (r : Region) : List Candidate :=
  ((r.inlineMarks settings).filter fun m => m.start ≤ m.stop).map (Candidate.mk n false)

/-- The marks of the spans in a region with the number given. -/
def ofReply (n : Nat) (r : Region) (reply : Reply) : List Candidate :=
  ((r.replyMarks reply).filter fun m => m.start ≤ m.stop).map (Candidate.mk n true)

/-- The marks of regions that are numbered from the given number on. -/
def ofRegions (settings : DecorationSettings) : Nat → List (Region × Reply) → List Candidate
  | _, [] => []
  | n, a :: as => own settings n a.1 ++ ofReply n a.1 a.2 ++ ofRegions settings (n + 1) as

/-- The marks that are kept in order. -/
def kept (settings : DecorationSettings) (asked : List (Region × Reply)) : List Candidate :=
  rising (ofRegions settings 0 asked)

/-- The mark is that of a span in the region with the number. -/
def isTokenOf (c : Candidate) (n : Nat) : Bool :=
  c.region == n && c.token

theorem map_mark_kept (settings : DecorationSettings) (asked : List (Region × Reply)) :
    (kept settings asked).map (·.mark) = rising (asked.flatMap fun a => a.1.candidates settings a.2) := by
  have hmarks : ∀ n, (ofRegions settings n asked).map (·.mark) =
      asked.flatMap fun a => a.1.candidates settings a.2 := by
    induction asked with
    | nil => exact fun _ => rfl
    | cons a as ih =>
      intro n
      rw [ofRegions, List.map_append, ih, List.flatMap_cons]
      simp [own, ofReply, Region.candidates, Function.comp_def]
  rw [kept, map_rising (f := Candidate.mark) (fun _ => rfl), hmarks]

theorem of_mem_own {r : Region} (hc : c ∈ own settings n r) :
    c.region = n ∧ c.token = false ∧ anchor c = r.start := by
  obtain ⟨m, hm, rfl⟩ := List.mem_map.1 hc
  refine ⟨rfl, rfl, ?_⟩
  have hm := (List.mem_filter.1 hm).1
  unfold inlineMarks at hm
  split at hm
  · cases hm
  · rw [List.mem_singleton.1 hm]
    rfl

theorem of_mem_ofReply {r : Region} {reply : Reply} (hc : c ∈ ofReply n r reply) :
    c.region = n ∧ c.token = true ∧
      ∃ spans, reply = .ok spans ∧ ∃ span ∈ spans, anchor c = r.start + span.start := by
  obtain ⟨m, hm, rfl⟩ := List.mem_map.1 hc
  refine ⟨rfl, rfl, ?_⟩
  have hm := (List.mem_filter.1 hm).1
  cases reply with
  | error e => cases hm
  | ok spans =>
    obtain ⟨span, hspan, hcls⟩ := List.mem_filterMap.1 hm
    obtain ⟨cls, -, rfl⟩ := Option.map_eq_some_iff.1 hcls
    exact ⟨spans, rfl, span, hspan, rfl⟩

/-- A mark of a list of regions has the number of one of them, and does not begin before it. -/
theorem of_mem_ofRegions {as : List (Region × Reply)} (hc : c ∈ ofRegions settings n as) :
    n ≤ c.region ∧ c.region < n + as.length ∧ ∃ a ∈ as, a.1.start ≤ anchor c := by
  induction as generalizing n with
  | nil => cases hc
  | cons a as ih =>
    rw [List.length_cons]
    rcases List.mem_append.1 hc with hc | hc
    · rcases List.mem_append.1 hc with hc | hc
      · obtain ⟨hregion, -, hstart⟩ := of_mem_own hc
        exact ⟨by omega, by omega, a, List.mem_cons_self .., by omega⟩
      · obtain ⟨hregion, -, _, _, span, _, hstart⟩ := of_mem_ofReply hc
        exact ⟨by omega, by omega, a, List.mem_cons_self .., by omega⟩
    · obtain ⟨hle, hlt, b, hb, hstart⟩ := ih hc
      exact ⟨by omega, by omega, b, List.mem_cons_of_mem _ hb, hstart⟩

/-- The marks before the spans of one region, those of its spans, and those behind. -/
theorem ofRegions_split (settings : DecorationSettings) (n : Nat) (before behind : List (Region × Reply)) (r : Region)
    (reply : Reply) : ofRegions settings n (before ++ (r, reply) :: behind) =
      ofRegions settings n before ++ own settings (n + before.length) r ++
        ofReply (n + before.length) r reply ++ ofRegions settings (n + before.length + 1) behind := by
  induction before generalizing n with
  | nil => simp [ofRegions]
  | cons a before ih =>
    have hnumber : n + 1 + before.length = n + (before.length + 1) := by omega
    simp only [List.cons_append, ofRegions, ih, List.length_cons, List.append_assoc, hnumber]

/-- Without the spans of one region the marks kept are the same but for those of the spans. -/
theorem kept_without (settings : DecorationSettings) {before behind : List (Region × Reply)} {r : Region}
    {spans : List Span} (e : SyntaxError)
    (hspans : ∀ span ∈ spans, r.start + span.start ≤ r.stop) (hbehind : ∀ a ∈ behind, r.stop ≤ a.1.start) :
    kept settings (before ++ (r, .error e) :: behind) =
      (kept settings (before ++ (r, .ok spans) :: behind)).filter fun c => !c.isTokenOf before.length := by
  have hfirst : ∀ c ∈ ofRegions settings 0 before ++ own settings before.length r,
      c.isTokenOf before.length = false := by
    intro c hc
    rcases List.mem_append.1 hc with hc | hc
    · obtain ⟨-, hlt, -⟩ := of_mem_ofRegions hc
      have hne : c.region ≠ before.length := by omega
      simp [isTokenOf, hne]
    · obtain ⟨-, htoken, -⟩ := of_mem_own hc
      simp [isTokenOf, htoken]
  have hmiddle : ∀ c ∈ ofReply before.length r (.ok spans), c.isTokenOf before.length = true ∧ anchor c ≤ r.stop := by
    intro c hc
    obtain ⟨hregion, htoken, _, heq, span, hspan, hstart⟩ := of_mem_ofReply hc
    cases heq
    have := hspans span hspan
    exact ⟨by simp [isTokenOf, hregion, htoken], by omega⟩
  have hrest : ∀ c ∈ ofRegions settings (before.length + 1) behind,
      c.isTokenOf before.length = false ∧ r.stop ≤ anchor c := by
    intro c hc
    obtain ⟨hle, -, a, ha, hstart⟩ := of_mem_ofRegions hc
    have hne : c.region ≠ before.length := by omega
    exact ⟨by simp [isTokenOf, hne], Nat.le_trans (hbehind a ha) hstart⟩
  obtain ⟨middle, rest, hmiddle', hrest', hkept, hkept'⟩ :=
    rising_without (ofRegions settings 0 before ++ own settings before.length r)
      (fun c hc => (hmiddle c hc).2) fun c hc => (hrest c hc).2
  have hwithout := ofRegions_split settings 0 before behind r (.error e)
  rw [Nat.zero_add, show ofReply before.length r (.error e) = [] from rfl, List.append_nil] at hwithout
  unfold kept
  rw [hwithout, ofRegions_split, Nat.zero_add, hkept, hkept', List.filter_append, List.filter_append,
    List.filter_eq_self.2 fun c hc => by simp [hfirst c ((sublist_rising _).subset hc)],
    List.filter_eq_nil_iff.2 fun c hc => by simp [(hmiddle c (hmiddle'.subset hc)).1],
    List.filter_eq_self.2 fun c hc => by simp [(hrest c (hrest'.subset hc)).1], List.append_nil]

end Candidate

/-! ### Two runs -/

theorem exists_split_at {α : Type} {l l' : List α} {k : Nat} {a a' : α} (ha : l[k]? = some a) (ha' : l'[k]? = some a')
    (hsame : ∀ i, i ≠ k → l[i]? = l'[i]?) :
    l = l.take k ++ a :: l.drop (k + 1) ∧ l' = l.take k ++ a' :: l.drop (k + 1) := by
  obtain ⟨hk, rfl⟩ := List.getElem?_eq_some_iff.1 ha
  obtain ⟨hk', rfl⟩ := List.getElem?_eq_some_iff.1 ha'
  have htake : l'.take k = l.take k := by
    refine List.ext_getElem? fun i => ?_
    rw [List.getElem?_take, List.getElem?_take]
    split
    · exact (hsame i (by omega)).symm
    · rfl
  have hdrop : l'.drop (k + 1) = l.drop (k + 1) := by
    refine List.ext_getElem? fun i => ?_
    rw [List.getElem?_drop, List.getElem?_drop]
    exact (hsame _ (by omega)).symm
  constructor
  · rw [← List.drop_eq_getElem_cons hk, List.take_append_drop]
  · rw [← htake, ← hdrop, ← List.drop_eq_getElem_cons hk', List.take_append_drop]

section
variable {σ : Type} {doc : Document} {rs : List Region} {k : Nat} {r : Region}

theorem asked_eq_zip (hin : ∀ s ∈ rs, s.Inside doc) (h : Highlighter σ) (st : σ) :
    h.asked doc st rs = rs.zip (h.replies st (rs.map (fragment doc))) := by
  have hall : rs.filter (·.Inside doc) = rs := List.filter_eq_self.2 fun s hs => by simpa using hin s hs
  rw [Highlighter.asked, hall]

theorem calls_of_inside (hin : ∀ s ∈ rs, s.Inside doc) (settings : DecorationSettings) (h : Highlighter σ) (st : σ) :
    (decorate settings doc rs h.recording (st, [])).2.2.2 = rs.map (fragment doc) := by
  have hall : rs.filter (·.Inside doc) = rs := List.filter_eq_self.2 fun s hs => by simpa using hin s hs
  rw [decorate_recording, hall]

theorem stop_le_of_mem_drop (hrs : rs.Pairwise fun s t => s.stop ≤ t.start) (hr : rs[k]? = some r)
    {replies : List Reply} {a : Region × Reply} (ha : a ∈ (rs.zip replies).drop (k + 1)) : r.stop ≤ a.1.start := by
  obtain ⟨i, hi⟩ := List.getElem?_of_mem ha
  rw [List.getElem?_drop, List.getElem?_zip_eq_some] at hi
  obtain ⟨hk, rfl⟩ := List.getElem?_eq_some_iff.1 hr
  obtain ⟨hlt, heq⟩ := List.getElem?_eq_some_iff.1 hi.1
  rw [← heq]
  exact List.pairwise_iff_getElem.1 hrs k (k + 1 + i) hk hlt (by omega)

end

/-- The second decorations are the first without the marks of the spans in the region with the number, and with
that region among those that could not be highlighted. -/
structure Lacks (settings : DecorationSettings) (k : Nat) (r : Region) (asked asked' : List (Region × Reply))
    (d d' : Decorations) : Prop where
  lines : d'.lines = d.lines
  marks : d.marks = (Candidate.kept settings asked).map (·.mark)
  marks' : d'.marks = (Candidate.kept settings asked').map (·.mark)
  kept : Candidate.kept settings asked' = (Candidate.kept settings asked).filter fun c => !c.isTokenOf k
  unhighlighted : d.unhighlighted = failed (asked.take k) ++ failed (asked.drop (k + 1))
  unhighlighted' : d'.unhighlighted = failed (asked.take k) ++ r :: failed (asked.drop (k + 1))

/-- If a highlighter fails on one fragment where another gives spans that begin in it, and all their other
replies are the same, then the decorations only differ in what the failure is about. Either is asked about every
region once, in order. -/
theorem decorate_isolates {σ τ : Type} (settings : DecorationSettings) {doc : Document} {rs : List Region} {k : Nat}
    {r : Region} {spans : List Span} {e : SyntaxError} (h : Highlighter σ) (h' : Highlighter τ) (st : σ) (st' : τ)
    (hin : ∀ s ∈ rs, s.Inside doc) (hrs : rs.Pairwise fun s t => s.stop ≤ t.start) (hr : rs[k]? = some r)
    (hok : (h.replies st (rs.map (fragment doc)))[k]? = some (.ok spans))
    (hfail : (h'.replies st' (rs.map (fragment doc)))[k]? = some (.error e))
    (hsame : ∀ i, i ≠ k →
      (h.replies st (rs.map (fragment doc)))[i]? = (h'.replies st' (rs.map (fragment doc)))[i]?)
    (hspans : ∀ s ∈ spans, s.start ≤ (r.fragment doc).length ∧ s.stop ≤ (r.fragment doc).length) :
    Lacks settings k r (h.asked doc st rs) (h'.asked doc st' rs) (decorate settings doc rs h st).1
        (decorate settings doc rs h' st').1 ∧
      (decorate settings doc rs h.recording (st, [])).2.2.2 = rs.map (fragment doc) ∧
      (decorate settings doc rs h'.recording (st', [])).2.2.2 = rs.map (fragment doc) := by
  have hasked := asked_eq_zip hin h st
  have hasked' := asked_eq_zip hin h' st'
  have hget : (h.asked doc st rs)[k]? = some (r, .ok spans) := by
    rw [hasked, List.getElem?_zip_eq_some]
    exact ⟨hr, hok⟩
  have hget' : (h'.asked doc st' rs)[k]? = some (r, .error e) := by
    rw [hasked', List.getElem?_zip_eq_some]
    exact ⟨hr, hfail⟩
  have hothers : ∀ i, i ≠ k → (h.asked doc st rs)[i]? = (h'.asked doc st' rs)[i]? := by
    intro i hi
    rw [hasked, hasked', List.zip_eq_zipWith, List.zip_eq_zipWith, List.getElem?_zipWith, List.getElem?_zipWith,
      hsame i hi]
  obtain ⟨hsplit, hsplit'⟩ := exists_split_at hget hget' hothers
  have hlength : ((h.asked doc st rs).take k).length = k := by
    have := (List.getElem?_eq_some_iff.1 hget).1
    rw [List.length_take]
    omega
  have hfits : ∀ s ∈ spans, r.start + s.start ≤ r.stop := by
    intro s hs
    obtain ⟨hle, hstop⟩ := hin r (List.mem_of_getElem? hr)
    have hstart := (hspans s hs).1
    rw [length_fragment hstop] at hstart
    omega
  have hbehind : ∀ a ∈ (h.asked doc st rs).drop (k + 1), r.stop ≤ a.1.start := by
    rw [hasked]
    exact fun a ha => stop_le_of_mem_drop hrs hr ha
  have hkept : Candidate.kept settings
        ((h.asked doc st rs).take k ++ (r, .error e) :: (h.asked doc st rs).drop (k + 1)) =
      (Candidate.kept settings
        ((h.asked doc st rs).take k ++ (r, .ok spans) :: (h.asked doc st rs).drop (k + 1))).filter
          fun c => !c.isTokenOf ((h.asked doc st rs).take k).length :=
    Candidate.kept_without settings e hfits hbehind
  rw [hlength, ← hsplit, ← hsplit'] at hkept
  refine ⟨⟨?_, ?_, ?_, hkept, ?_, ?_⟩, calls_of_inside hin settings h st, calls_of_inside hin settings h' st'⟩
  · rw [decorate_eq, decorate_eq]
  · rw [decorate_eq, Candidate.map_mark_kept]
  · rw [decorate_eq, Candidate.map_mark_kept]
  · have hfailed := congrArg failed hsplit
    rw [failed_append] at hfailed
    rw [decorate_eq]
    exact hfailed
  · have hfailed := congrArg failed hsplit'
    rw [failed_append] at hfailed
    rw [decorate_eq]
    exact hfailed

/-- Two regions, the second right behind the first but for a break. -/
def pairDocument : Document := ⟨['a', '<', '%', 'b', '%', '>', '\n', '<', '%', 'c', '%', '>']⟩

def pairRegions : List Region := [⟨1, 6, .inline⟩, ⟨7, 12, .block⟩]

/-- One at the end, one that is inverted, and one that comes too late. -/
def lateSpans : List Span := [⟨5, 5, some "late"⟩, ⟨4, 2, some "inverted"⟩, ⟨0, 2, some "meta"⟩]

theorem decorate_isolates_late :
    (∀ s ∈ pairRegions, s.Inside pairDocument) ∧ (∀ s ∈ lateSpans, s.start ≤ 5 ∧ s.stop ≤ 5) ∧
      Lacks {} 0 ⟨1, 6, .inline⟩
        (Highlighter.scripted.asked pairDocument [.ok lateSpans, .ok [⟨0, 2, some "meta"⟩]] pairRegions)
        (Highlighter.scripted.asked pairDocument [.error .offsetOverflow, .ok [⟨0, 2, some "meta"⟩]] pairRegions)
        (decorate {} pairDocument pairRegions Highlighter.scripted [.ok lateSpans, .ok [⟨0, 2, some "meta"⟩]]).1
        (decorate {} pairDocument pairRegions Highlighter.scripted
          [.error .offsetOverflow, .ok [⟨0, 2, some "meta"⟩]]).1 := by
  have hin : ∀ s ∈ pairRegions, s.Inside pairDocument := by decide
  have hspans : ∀ s ∈ lateSpans, s.start ≤ 5 ∧ s.stop ≤ 5 := by decide
  refine ⟨hin, hspans, (decorate_isolates {} Highlighter.scripted Highlighter.scripted
    [.ok lateSpans, .ok [⟨0, 2, some "meta"⟩]] [.error .offsetOverflow, .ok [⟨0, 2, some "meta"⟩]] hin (by decide)
    rfl rfl rfl ?_ hspans).1⟩
  intro i hi
  cases i with
  | zero => exact absurd rfl hi
  | succ i => rfl

end Scriptlet
