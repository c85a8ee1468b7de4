import Scriptlet.Proofs.SettingsLines

/-!
# Settings are read back

The lines of a settings document build its tables in the order they are written: each header opens a table
behind those that are there, and the lines under it fill that one (`Toml.Entries.run_table`). `Opens` says
that a path leads to a table and what the whole is in terms of it, so that a line is about one table alone.
What has been built holds every setting under its key, and attributes come back in order
(`Attributes.ofList_entries`); so the settings read are those written (`Settings.ofText_toText`).
-/

namespace Scriptlet

namespace Toml.Entries
variable {es before inner : Entries} {k key : String} {n n' : Node} {here around : List String}
  {whole : Entries → Entries} {rest : List Statement}

/-- The keys that stand for something. -/
abbrev keys (es : Entries) : List String := es.map (·.1)

theorem node?_of_not_mem (h : k ∉ keys es) : node? es k = none := by
  rw [node?, List.lookup_eq_none_iff]
  intro e he
  have : k ≠ e.1 := fun heq => h (heq ▸ List.mem_map_of_mem he)
  simpa using this

theorem node?_last (h : k ∉ keys before) : node? (before ++ [(k, n)]) k = some n := by
  have := node?_of_not_mem h
  rw [node?] at this
  rw [node?, List.lookup_append, this]
  simp

theorem set_new (h : k ∉ keys es) : set es k n = es ++ [(k, n)] := by
  refine if_neg fun hany => h ?_
  obtain ⟨e, he, hk⟩ := List.any_eq_true.1 hany
  exact beq_iff_eq.1 hk ▸ List.mem_map_of_mem he

theorem set_last (h : k ∉ keys before) : set (before ++ [(k, n)]) k n' = before ++ [(k, n')] := by
  have hbefore : before.map (fun e => if e.1 == k then (k, n') else e) = before := by
    refine (List.map_congr_left fun e he => if_neg fun hk => h ?_).trans (List.map_id before)
    exact beq_iff_eq.1 hk ▸ List.mem_map_of_mem he
  rw [set, if_pos (by simp), List.map_append, hbefore]
  simp

/-! ### Tables at the end of a path -/

theorem descend_append (f : Entries → Option Entries) (ks ls : List String) :
    descend f (ks ++ ls) = descend (descend f ls) ks := by
  induction ks with
  | nil => rfl
  | cons k ks ih =>
    funext es
    simp only [List.cons_append, descend, ih]

/-- The path leads to a table, of which `whole` makes all there is. -/
def Opens (here : List String) (whole : Entries → Entries) : Prop :=
  ∀ f inner, descend f here (whole inner) = (f inner).map whole

theorem Opens.root : Opens [] id := fun f inner => by simp [descend]

theorem Opens.last (h : Opens around whole) (hkey : key ∉ keys inner) (origin : Origin) :
    Opens (around ++ [key]) fun table => whole (inner ++ [(key, .table origin table)]) := by
  intro f table
  have hinner : descend f [key] (inner ++ [(key, .table origin table)]) =
      (f table).map fun table => inner ++ [(key, .table origin table)] := by
    simp only [descend, node?_last hkey, set_last hkey]
  rw [descend_append, h, hinner, Option.map_map]
  rfl

theorem run_pairs (h : Opens here whole) (inner : Entries) (pairs : List (String × Value))
    (hnew : (keys inner ++ pairs.map (·.1)).Nodup) :
    runStatements here (whole inner) ((pairs.map fun p => .pair [] p.1 p.2) ++ rest) =
      runStatements here (whole (inner ++ pairs.map fun p => (p.1, .value p.2))) rest := by
  induction pairs generalizing inner with
  | nil => simp
  | cons p ps ih =>
    have hp : p.1 ∉ keys inner := by
      intro hmem
      exact (List.nodup_append.1 hnew).2.2 _ hmem _ (List.mem_cons_self ..) rfl
    have hput : put true p.2 p.1 [] inner = some (inner ++ [(p.1, .value p.2)]) := by
      simp [put, node?_of_not_mem hp, set_new hp]
    rw [List.map_cons, List.cons_append, runStatements, h, hput]
    simp only [Option.map_some]
    rw [ih _ (by simpa using hnew)]
    simp

/-- A header opens a table behind what is there, and the lines under it fill it. -/
theorem run_table (h : Opens around whole) (inner : Entries) (hkey : key ∉ keys inner)
    (pairs : List (String × Value)) (hnew : (pairs.map (·.1)).Nodup) :
    runStatements here (whole inner) (.header around key :: ((pairs.map fun p => .pair [] p.1 p.2) ++ rest)) =
      runStatements (around ++ [key])
        (whole (inner ++ [(key, .table .header (pairs.map fun p => (p.1, .value p.2)))])) rest := by
  have hopen : openTable around key (whole inner) = some (whole (inner ++ [(key, .table .header [])])) := by
    rw [openTable, h]
    simp only [node?_of_not_mem hkey, set_new hkey, Option.map_some]
  rw [runStatements, hopen]
  exact run_pairs (h.last hkey .header) [] pairs hnew

theorem entriesToValues_pairs (pairs : List (String × Value)) :
    entriesToValues (pairs.map fun p => (p.1, .value p.2)) = pairs := by
  induction pairs with
  | nil => rfl
  | cons p ps ih =>
    rw [List.map_cons, entriesToValues, ih]
    rfl

theorem entriesToValues_append (es es' : Entries) :
    entriesToValues (es ++ es') = entriesToValues es ++ entriesToValues es' := by
  induction es with
  | nil => rfl
  | cons e es ih => simp only [List.cons_append, entriesToValues, ih]

end Toml.Entries

/-! ### Attributes -/

namespace Attributes
variable {es : List (String × String)} {key value : String}

theorem setEntry_last (h : ∀ a ∈ es, a.1 < key) : setEntry key value es = es ++ [(key, value)] := by
  induction es with
  | nil => rfl
  | cons a es ih =>
    obtain ⟨k, v⟩ := a
    have hk : k < key := h (k, v) (List.mem_cons_self ..)
    have hne : key ≠ k := fun heq => String.lt_irrefl k (heq ▸ hk)
    have hlt : ¬key < k := fun hlt => String.lt_irrefl k (String.lt_trans hk hlt)
    rw [setEntry, if_neg hne, if_neg hlt, ih fun b hb => h b (List.mem_cons_of_mem _ hb)]
    rfl

theorem entries_foldl_insert (es : List (String × String)) {as : Attributes}
    (h : (as.entries ++ es).Pairwise fun a b => a.1 < b.1) :
    (es.foldl (fun as e => as.insert e.1 e.2) as).entries = as.entries ++ es := by
  induction es generalizing as with
  | nil => simp
  | cons e es ih =>
    have hlast : (as.insert e.1 e.2).entries = as.entries ++ [e] :=
      setEntry_last fun a ha => (List.pairwise_append.1 h).2.2 a ha e (List.mem_cons_self ..)
    rw [List.foldl_cons, ih (by simpa [hlast] using h), hlast]
    simp

/-- Attributes are what their entries give. -/
theorem ofList_entries (as : Attributes) : ofList as.entries = as :=
  Attributes.ext (entries_foldl_insert as.entries as.ordered)

end Attributes

/-! ### Settings -/

namespace Settings
open Toml Toml.Entries

/-- The tables of the document with all settings. -/
def tables (s : Settings) : List (String × Value) :=
  [("delimiters", .table s.delimiters.pairs),
    ("decorations", .table (s.decorations.pairs ++ [("attributes", .table s.decorations.attributes.pairs)])),
    ("highlight", .table s.highlight.pairs)]

theorem runStatements_statements (s : Settings) :
    (runStatements [] [] s.statements).map entriesToValues = some s.tables := by
  have hattributes : (s.decorations.attributes.pairs.map (·.1)).Nodup := by
    rw [Attributes.pairs, Attributes.map, List.map_map]
    refine List.pairwise_map.2 (s.decorations.attributes.ordered.imp fun {a b} hlt heq => ?_)
    have heq : a.1 = b.1 := heq
    exact String.lt_irrefl b.1 (heq ▸ hlt)
  have hrun : runStatements [] [] s.statements = _ :=
    (run_table Opens.root [] (by simp) s.delimiters.pairs (by simp [DelimiterSettings.pairs])).trans <|
    (run_table Opens.root _ (by simp) s.decorations.pairs (by simp [DecorationSettings.pairs])).trans <|
    (run_table (Opens.root.last (by simp) .header) _ (by simp [DecorationSettings.pairs])
      s.decorations.attributes.pairs hattributes).trans <|
    run_table Opens.root _ (by simp) s.highlight.pairs (by simp [HighlightSettings.pairs])
  rw [hrun, runStatements]
  simp [entriesToValues_append, entriesToValues, Node.toValue, entriesToValues_pairs, tables]

theorem mapM_strings (es : List (String × String)) :
    (es.map fun e => (e.1, Value.string e.2)).mapM (fun (k, v) => v.string?.map fun s => (k, s)) = some es := by
  induction es with
  | nil => rfl
  | cons e es ih =>
    rw [List.map_cons, List.mapM_cons, ih]
    rfl

theorem ofEntries?_tables (s : Settings) : ofEntries? s.tables = some s := by
  have hattributes : readAttributes (.table s.decorations.attributes.pairs) = some s.decorations.attributes := by
    simp only [readAttributes, Value.entries?, Option.bind_eq_bind, Option.bind_some, Attributes.pairs,
      Attributes.map, mapM_strings, Attributes.ofList_entries]
  have hdelimiters : field s.tables "delimiters" {} readDelimiters = some s.delimiters := rfl
  have hdecorations : field s.tables "decorations" {} readDecorations = some s.decorations := by
    show (readAttributes (.table s.decorations.attributes.pairs)).bind _ = _
    rw [hattributes]
    rfl
  have hhighlight : field s.tables "highlight" {} readHighlight = some s.highlight := rfl
  rw [ofEntries?, hdelimiters, hdecorations, hhighlight]
  rfl

/-- The settings in the text with all settings are those written. -/
theorem ofText_toText (s : Settings) : ofText s.toText = .ok s := by
  have hmark : dropByteOrderMark s.toText = s.toText := by
    simp only [toText, sections, Writer.tableText]
    rfl
  have hread : read? s.toText = some s.tables := by
    rw [read?, hmark]
    simp only [(readsAs_toText s).read, Option.bind_some, runStatements_statements s]
  rw [ofText, hread, Option.bind_some, ofEntries?_tables s]

end Settings

end Scriptlet
