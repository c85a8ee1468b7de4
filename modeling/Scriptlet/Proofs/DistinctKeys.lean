import Scriptlet.Proofs.SettingsTables

/-!
# Keys stand for one value

No table of a document that can be read gives a key twice, however its tables are written (`distinct_read?`). A key
that stands for something is set in its place and any other is added (`Entries.Distinct.set`), and all that lines
and inline tables do is to set keys in tables inside of tables (`Entries.keeps_put`, `Entries.Keeps.descend`). The
fuel of the readers is what the induction is on: each gives values built of what the others give with less.
-/

namespace Scriptlet.Toml

/-- No table in the value has a key twice. -/
inductive Value.Distinct : Value → Prop
  | string (s) : Distinct (.string s)
  | integer (n) : Distinct (.integer n)
  | float (written) : Distinct (.float written)
  | boolean (b) : Distinct (.boolean b)
  | datetime (d) : Distinct (.datetime d)
  | array {items} (h : ∀ v ∈ items, Distinct v) : Distinct (.array items)
  | table {entries} (keys : (entries.map (·.1)).Nodup) (h : ∀ e ∈ entries, Distinct e.2) :
    Distinct (.table entries)

theorem Value.Distinct.lookup {entries : List (String × Value)} {key : String} {v : Value}
    (h : (Value.table entries).Distinct) (hv : entries.lookup key = some v) : v.Distinct := by
  obtain ⟨l₁, l₂, rfl, -⟩ := List.lookup_eq_some_iff.1 hv
  cases h with
  | table _ hvalues => exact hvalues (key, v) (by simp)

/-! ### Values without quotes -/
section
variable {cs : List Char} {v : Value}

theorem distinct_fitting {n : Int} (h : fitting n = some v) : v.Distinct := by
  rw [fitting] at h
  split at h
  · cases h
    exact .integer n
  · cases h

theorem distinct_integer? (h : integer? cs = some v) : v.Distinct := by
  have hbased : ∀ base isDigit ds, basedInteger base isDigit ds = some v → v.Distinct := by
    intro base isDigit ds h
    obtain ⟨_, -, h⟩ := Option.bind_eq_some_iff.1 h
    exact distinct_fitting h
  rw [integer?.eq_def] at h
  split at h
  · exact hbased _ _ _ h
  · exact hbased _ _ _ h
  · exact hbased _ _ _ h
  · obtain ⟨_, -, h⟩ := Option.bind_eq_some_iff.1 h
    exact distinct_fitting h

theorem distinct_float? (h : float? cs = some v) : v.Distinct := by
  have hend : ∀ (fraction? : Option (List Char)) (refused : List Char → Bool),
      (fraction?.bind fun fraction => if refused fraction then none else some (.float (String.ofList cs))) = some v →
        v.Distinct := by
    intro fraction? refused h
    obtain ⟨fraction, -, h⟩ := Option.bind_eq_some_iff.1 h
    split at h
    · cases h
    · cases h
      exact .float _
  rw [float?] at h
  dsimp only at h
  split at h
  · cases h
    exact .float _
  -- with an exponent or without
  split at h
  all_goals
    obtain ⟨exponent, -, h⟩ := Option.bind_eq_some_iff.1 h
    obtain ⟨whole, -, h⟩ := Option.bind_eq_some_iff.1 h
    split at h
    · split at h
      · exact hend _ _ h
      · exact hend _ _ h
    · exact hend _ _ h

theorem distinct_datetime? (h : datetime? cs = some v) : v.Distinct := by
  rw [datetime?] at h
  split at h
  · rcases Option.or_eq_some_iff.1 h with h | ⟨-, h⟩
    · obtain ⟨d, -, rfl⟩ := Option.map_eq_some_iff.1 h
      exact .datetime _
    · obtain ⟨t, -, rfl⟩ := Option.map_eq_some_iff.1 h
      exact .datetime _
  · split at h
    · obtain ⟨date, -, h⟩ := Option.bind_eq_some_iff.1 h
      obtain ⟨⟨time, offset⟩, -, h⟩ := Option.bind_eq_some_iff.1 h
      cases h
      exact .datetime _
    · obtain ⟨t, -, rfl⟩ := Option.map_eq_some_iff.1 h
      exact .datetime _

theorem distinct_scalar? (h : scalar? cs = some v) : v.Distinct := by
  rw [scalar?] at h
  split at h
  · cases h
    exact .boolean true
  split at h
  · cases h
    exact .boolean false
  rcases Option.or_eq_some_iff.1 h with h | ⟨-, h⟩
  · rcases Option.or_eq_some_iff.1 h with h | ⟨-, h⟩
    · exact distinct_integer? h
    · exact distinct_float? h
  · exact distinct_datetime? h

theorem distinct_readScalar {rest : List Char} (h : readScalar cs = some (v, rest)) : v.Distinct := by
  have hscalar : ∀ run rest', (scalar? run).map (fun v => (v, rest')) = some (v, rest) → v.Distinct := by
    intro run rest' h
    obtain ⟨v', hv, heq⟩ := Option.map_eq_some_iff.1 h
    cases heq
    exact distinct_scalar? hv
  rw [readScalar] at h
  split at h
  · split at h
    · exact hscalar _ _ h
    · exact hscalar _ _ h
  · exact hscalar _ _ h

end

/-! ### Tables under construction -/

theorem entriesToValues_eq_map (es : Entries) : entriesToValues es = es.map fun e => (e.1, e.2.toValue) := by
  induction es with
  | nil => rfl
  | cons e es ih => rw [entriesToValues, ih, List.map_cons]

theorem itemsToValues_eq_map (items : List Entries) :
    itemsToValues items = items.map fun es => .table (entriesToValues es) := by
  induction items with
  | nil => rfl
  | cons es items ih => rw [itemsToValues, ih, List.map_cons]

namespace Entries
variable {es es' : Entries} {key : String} {n : Node} {f : Entries → Option Entries}

/-- The table has every key once, and so have those inside it. -/
def Distinct (es : Entries) : Prop := es.keys.Nodup ∧ ∀ e ∈ es, e.2.toValue.Distinct

theorem distinct_nil : Distinct [] := ⟨.nil, fun _ h => nomatch h⟩

theorem Distinct.toValue (h : es.Distinct) : (Value.table (entriesToValues es)).Distinct := by
  obtain ⟨hkeys, hvalues⟩ := h
  rw [entriesToValues_eq_map]
  refine .table ?_ fun e he => ?_
  · rwa [List.map_map]
  · obtain ⟨e', he', rfl⟩ := List.mem_map.1 he
    exact hvalues e' he'

theorem distinct_of_table (h : (Value.table (entriesToValues es)).Distinct) : es.Distinct := by
  rw [entriesToValues_eq_map] at h
  cases h with
  | table hkeys hvalues =>
    refine ⟨?_, fun e he => hvalues _ (List.mem_map_of_mem he)⟩
    rwa [List.map_map] at hkeys

theorem distinct_tables {items : List Entries} :
    (Node.tables items).toValue.Distinct ↔ ∀ es ∈ items, es.Distinct := by
  rw [Node.toValue, itemsToValues_eq_map]
  constructor
  · intro h es hes
    cases h with
    | array hitems => exact distinct_of_table (hitems _ (List.mem_map_of_mem hes))
  · intro h
    refine .array fun v hv => ?_
    obtain ⟨es, hes, rfl⟩ := List.mem_map.1 hv
    exact (h es hes).toValue

theorem Distinct.node? (h : es.Distinct) (hn : es.node? key = some n) : n.toValue.Distinct := by
  obtain ⟨l₁, l₂, rfl, -⟩ := List.lookup_eq_some_iff.1 hn
  exact h.2 (key, n) (by simp)

/-- What a key stands for may be changed, and a key added. -/
theorem Distinct.set (h : es.Distinct) (hn : n.toValue.Distinct) : (es.set key n).Distinct := by
  obtain ⟨hkeys, hvalues⟩ := h
  by_cases hmem : key ∈ es.keys
  · have hany : (es.any fun e => e.1 == key) = true := by
      obtain ⟨e, he, rfl⟩ := List.mem_map.1 hmem
      exact List.any_eq_true.2 ⟨e, he, beq_self_eq_true _⟩
    rw [Entries.set, if_pos hany]
    refine ⟨?_, fun e he => ?_⟩
    · have hsame : keys (es.map fun e => if e.1 == key then (key, n) else e) = es.keys := by
        rw [keys, List.map_map]
        refine List.map_congr_left fun e _ => ?_
        rw [Function.comp_apply]
        split
        · exact (beq_iff_eq.1 ‹_›).symm
        · rfl
      rwa [hsame]
    · obtain ⟨e', he', rfl⟩ := List.mem_map.1 he
      split
      · exact hn
      · exact hvalues e' he'
  · rw [set_new hmem]
    refine ⟨?_, fun e he => ?_⟩
    · rw [keys, List.map_append]
      refine List.nodup_append.2 ⟨hkeys, List.pairwise_singleton .., fun k hk k' hk' heq => hmem ?_⟩
      obtain rfl : k' = key := List.mem_singleton.1 hk'
      exact heq ▸ hk
    · rcases List.mem_append.1 he with he | he
      · exact hvalues e he
      · obtain rfl := List.mem_singleton.1 he
        exact hn

/-- The change gives tables with every key once. -/
def Keeps (f : Entries → Option Entries) : Prop := ∀ es es', es.Distinct → f es = some es' → es'.Distinct

theorem Keeps.changeLast (hf : Keeps f) {items items' : List Entries} (hitems : ∀ es ∈ items, es.Distinct)
    (h : changeLast f items = some items') : ∀ es ∈ items', es.Distinct := by
  induction items generalizing items' with
  | nil => cases h
  | cons es items ih =>
    have hes := hitems es (List.mem_cons_self ..)
    match items with
    | [] =>
      obtain ⟨es', hchange, rfl⟩ := Option.map_eq_some_iff.1 h
      intro e he
      obtain rfl := List.mem_singleton.1 he
      exact hf es _ hes hchange
    | next :: rest =>
      obtain ⟨rest', hrest, rfl⟩ := Option.map_eq_some_iff.1 h
      have hrest' := ih (fun e he => hitems e (List.mem_cons_of_mem _ he)) hrest
      intro e he
      rcases List.mem_cons.1 he with rfl | he
      · exact hes
      · exact hrest' e he

theorem Keeps.table (hf : Keeps f) (hes : es.Distinct) {inner : Entries} (hinner : inner.Distinct) {origin : Origin}
    (h : (f inner).map (fun inner => es.set key (.table origin inner)) = some es') : es'.Distinct := by
  obtain ⟨inner', hchange, rfl⟩ := Option.map_eq_some_iff.1 h
  exact hes.set (hf inner inner' hinner hchange).toValue

theorem Keeps.tables (hf : Keeps f) (hes : es.Distinct) {items : List Entries} (hitems : ∀ es ∈ items, es.Distinct)
    (h : (Entries.changeLast f items).map (fun items => es.set key (.tables items)) = some es') : es'.Distinct := by
  obtain ⟨items', hchange, rfl⟩ := Option.map_eq_some_iff.1 h
  exact hes.set (distinct_tables.2 (hf.changeLast hitems hchange))

theorem keeps_put {v : Value} (hv : v.Distinct) (allowed : Bool) (key : String) (ks : List String) :
    Keeps (put allowed v key ks) := by
  induction ks generalizing allowed with
  | nil =>
    intro es es' hes h
    rw [put] at h
    split at h
    · cases h
      exact hes.set hv
    · cases h
  | cons k ks ih =>
    intro es es' hes h
    rw [put] at h
    split at h
    · exact (ih true).table hes distinct_nil h
    · cases h
    · cases h
    · rename_i hnode
      exact (ih _).table hes (distinct_of_table (hes.node? hnode)) h
    · rename_i hnode
      exact (ih false).tables hes (distinct_tables.1 (hes.node? hnode)) h

theorem Keeps.descend (hf : Keeps f) (ks : List String) : Keeps (descend f ks) := by
  induction ks with
  | nil => exact hf
  | cons k ks ih =>
    intro es es' hes h
    rw [Entries.descend] at h
    split at h
    · exact ih.table hes distinct_nil h
    · cases h
    · rename_i hnode
      exact ih.table hes (distinct_of_table (hes.node? hnode)) h
    · rename_i hnode
      exact ih.tables hes (distinct_tables.1 (hes.node? hnode)) h

theorem keeps_openTable (around : List String) (key : String) : Keeps (openTable around key) := by
  refine Keeps.descend (fun es es' hes h => ?_) around
  split at h
  · cases h
    exact hes.set distinct_nil.toValue
  · rename_i inner hnode
    cases h
    exact hes.set (distinct_of_table (hes.node? hnode)).toValue
  · cases h

theorem keeps_openItem (around : List String) (key : String) : Keeps (openItem around key) := by
  refine Keeps.descend (fun es es' hes h => ?_) around
  split at h
  · cases h
    exact hes.set (distinct_tables.2 fun es hes => List.mem_singleton.1 hes ▸ distinct_nil)
  · rename_i items hnode
    cases h
    refine hes.set (distinct_tables.2 fun es' hes' => ?_)
    rcases List.mem_append.1 hes' with hes' | hes'
    · exact distinct_tables.1 (hes.node? hnode) es' hes'
    · exact List.mem_singleton.1 hes' ▸ distinct_nil
  · cases h

end Entries

/-! ### Documents -/

section
variable {fuel : Nat} {cs rest : List Char}

/-- What is read has no key twice, if what is read so far has not. -/
theorem distinct_reading (fuel : Nat) :
    (∀ depth cs v rest, readValue fuel depth cs = some (v, rest) → v.Distinct) ∧
      (∀ depth before cs v rest, (∀ w ∈ before, w.Distinct) → readItems fuel depth before cs = some (v, rest) →
        v.Distinct) ∧
      ∀ depth before cs v rest, Entries.Distinct before → readPairs fuel depth before cs = some (v, rest) →
        v.Distinct := by
  induction fuel with
  | zero =>
    refine ⟨?_, ?_, ?_⟩
    · intro depth cs v rest h
      rw [readValue] at h
      cases h
    · intro depth before cs v rest _ h
      rw [readItems] at h
      cases h
    · intro depth before cs v rest _ h
      rw [readPairs] at h
      cases h
  | succ fuel ih =>
    obtain ⟨ihValue, ihItems, ihPairs⟩ := ih
    refine ⟨?_, ?_, ?_⟩
    · intro depth cs v rest h
      rw [readValue.eq_def] at h
      dsimp only at h
      split at h
      · obtain ⟨_, -, heq⟩ := Option.map_eq_some_iff.1 h
        cases heq
        exact .string _
      · obtain ⟨_, -, heq⟩ := Option.map_eq_some_iff.1 h
        cases heq
        exact .string _
      · split at h
        · cases h
        · exact ihItems _ _ _ _ _ (List.forall_mem_nil _) h
      · split at h
        · cases h
        · split at h
          · cases h
            exact Entries.distinct_nil.toValue
          · exact ihPairs _ _ _ _ _ Entries.distinct_nil h
      · exact distinct_readScalar h
    · intro depth before cs v rest hbefore h
      rw [readItems.eq_def] at h
      dsimp only at h
      split at h
      · cases h
        exact .array fun w hw => hbefore w (List.mem_reverse.1 hw)
      split at h
      · cases h
      · rename_i w rest' hread
        have hmore : ∀ x ∈ w :: before, x.Distinct :=
          List.forall_mem_cons.2 ⟨ihValue _ _ _ _ hread, hbefore⟩
        split at h
        · exact ihItems _ _ _ _ _ hmore h
        · cases h
          exact .array fun x hx => hmore x (List.mem_reverse.1 hx)
        · cases h
    · intro depth before cs v rest hbefore h
      rw [readPairs.eq_def] at h
      dsimp only at h
      split at h
      · split at h
        · cases h
        · rename_i w rest' hread
          split at h
          · cases h
          · rename_i entries hput
            have hentries := Entries.keeps_put (ihValue _ _ _ _ hread) _ _ _ _ _ hbefore hput
            split at h
            · exact ihPairs _ _ _ _ _ hentries h
            · cases h
              exact hentries.toValue
            · cases h
      · cases h

/-- The value of the line, if it has one, has no key twice. -/
def Statement.Distinct : Statement → Prop
  | .pair _ _ v => v.Distinct
  | .header .. => True
  | .doubleHeader .. => True

theorem distinct_readStatement {s : Statement} (h : readStatement fuel cs = some (s, rest)) : s.Distinct := by
  rw [readStatement.eq_def] at h
  split at h
  · split at h
    · obtain ⟨_, -, heq⟩ := Option.map_eq_some_iff.1 h
      cases heq
      trivial
    · cases h
  · split at h
    · obtain ⟨_, -, heq⟩ := Option.map_eq_some_iff.1 h
      cases heq
      trivial
    · cases h
  · split at h
    · split at h
      · rename_i w rest' hread
        obtain ⟨_, -, heq⟩ := Option.map_eq_some_iff.1 h
        cases heq
        exact (distinct_reading fuel).1 _ _ _ _ hread
      · cases h
    · cases h

theorem distinct_readStatements {ss : List Statement} (h : readStatements fuel cs = some ss) :
    ∀ s ∈ ss, s.Distinct := by
  induction fuel generalizing cs ss with
  | zero =>
    rw [readStatements] at h
    cases h
  | succ fuel ih =>
    rw [readStatements.eq_def] at h
    dsimp only at h
    split at h
    · cases h
      exact List.forall_mem_nil _
    · obtain ⟨_, -, h⟩ := Option.bind_eq_some_iff.1 h
      exact ih h
    · exact ih h
    · exact ih h
    · split at h
      · rename_i s rest' hread
        obtain ⟨ss', hss, rfl⟩ := Option.map_eq_some_iff.1 h
        exact List.forall_mem_cons.2 ⟨distinct_readStatement hread, ih hss⟩
      · cases h

theorem distinct_runStatements {here : List String} {es es' : Entries} {ss : List Statement}
    (hss : ∀ s ∈ ss, s.Distinct) (hes : es.Distinct) (h : runStatements here es ss = some es') : es'.Distinct := by
  induction ss generalizing here es with
  | nil =>
    cases h
    exact hes
  | cons s ss ih =>
    obtain ⟨hs, hrest⟩ := List.forall_mem_cons.1 hss
    cases s with
    | pair around key v =>
      rw [runStatements] at h
      split at h
      · rename_i next hnext
        exact ih hrest ((Entries.keeps_put hs true key around).descend here _ _ hes hnext) h
      · cases h
    | header around key =>
      rw [runStatements] at h
      split at h
      · rename_i next hnext
        exact ih hrest (Entries.keeps_openTable around key _ _ hes hnext) h
      · cases h
    | doubleHeader around key =>
      rw [runStatements] at h
      split at h
      · rename_i next hnext
        exact ih hrest (Entries.keeps_openItem around key _ _ hes hnext) h
      · cases h

/-- A document that can be read gives every key of a table once. -/
theorem distinct_read? {entries : List (String × Value)} (h : read? cs = some entries) :
    (Value.table entries).Distinct := by
  obtain ⟨es, hes, rfl⟩ := Option.map_eq_some_iff.1 h
  obtain ⟨ss, hread, hrun⟩ := Option.bind_eq_some_iff.1 hes
  exact (distinct_runStatements (distinct_readStatements hread) Entries.distinct_nil hrun).toValue

end
end Scriptlet.Toml
