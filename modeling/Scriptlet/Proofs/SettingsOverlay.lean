import Scriptlet.Proofs.DistinctKeys
import Scriptlet.Proofs.SettingsFiles

/-!
# Settings files overlay the defaults

A settings file says something of some fields, and each of the others keeps its default (`Settings.Overlays`). So a
file whose sections are tables is refused just if a field that it names has a value of the wrong type
(`Settings.WellTyped`), whatever else is in it. A section that is missing counts as an empty one
(`Settings.field_section`), which leaves one rule for all fields (`Settings.field_eq_some`). Attributes are one
field: a table of them is taken as it is, since no key stands in it twice (`Attributes.mem_ofList`), and leaves
nothing of the default ones.
-/

namespace Scriptlet

open Toml (Value)

namespace Attributes

theorem mem_foldl_insert {es : List (String × String)} (h : (es.map (·.1)).Nodup) (as : Attributes)
    {a : String × String} : a ∈ (es.foldl (fun as e => as.insert e.1 e.2) as).entries ↔
      a ∈ es ∨ a ∈ as.entries ∧ a.1 ∉ es.map (·.1) := by
  induction es generalizing as with
  | nil => simp
  | cons e es ih =>
    obtain ⟨hfirst, hes⟩ := List.nodup_cons.1 h
    have hkey : a = e → a.1 ∉ es.map (·.1) := fun heq => heq ▸ hfirst
    have hinsert : a ∈ (as.insert e.1 e.2).entries ↔ a = e ∨ a ∈ as.entries ∧ a.1 ≠ e.1 := mem_setEntry as.ordered
    rw [List.foldl_cons, ih hes, hinsert, List.mem_cons, List.map_cons, List.mem_cons, not_or]
    tauto

/-- Of a list of attributes without a key twice all are set. -/
theorem mem_ofList {es : List (String × String)} (h : (es.map (·.1)).Nodup) {a : String × String} :
    a ∈ (ofList es).entries ↔ a ∈ es := by
  rw [ofList, mem_foldl_insert h]
  simp

end Attributes

namespace Settings
variable {entries fields : List (String × Value)} {s : Settings}

/-! ### What a document says -/

/-- The entries of a section, none if it is missing. -/
def sectionOf (entries : List (String × Value)) (name : String) : List (String × Value) :=
  match entries.lookup name with
  | some (.table fields) => fields
  | _ => []

/-- What a document says of a field. -/
def value? (entries : List (String × Value)) (group field : String) : Option Value :=
  (sectionOf entries group).lookup field

/-- The sections of settings are tables. -/
def Sectioned (entries : List (String × Value)) : Prop :=
  ∀ name ∈ ["delimiters", "decorations", "highlight"], ∀ v, entries.lookup name = some v →
    ∃ fields, v = .table fields

/-- The fields that are strings, each with its section. -/
def textFields : List (String × String) :=
  [("delimiters", "open"), ("delimiters", "close"), ("decorations", "code_block_class"),
    ("decorations", "inline_code_class"), ("highlight", "language")]

/-- No field that the document names has a value of the wrong type. -/
structure WellTyped (entries : List (String × Value)) : Prop where
  texts : ∀ p ∈ textFields, ∀ v, value? entries p.1 p.2 = some v → ∃ text, v = .string text
  attributes : ∀ v, value? entries "decorations" "attributes" = some v →
    ∃ table, v = .table table ∧ ∀ e ∈ table, ∃ text, e.2 = .string text
  memoize : ∀ v, value? entries "highlight" "memoize_regions" = some v → ∃ b, v = .boolean b

/-- The setting is the value that is given, or the default if there is none. -/
def Overlaid {α : Type} (Holds : Value → α → Prop) (given? : Option Value) (default x : α) : Prop :=
  match given? with
  | none => x = default
  | some v => Holds v x

def IsText (v : Value) (text : String) : Prop := v = .string text

def IsFlag (v : Value) (b : Bool) : Prop := v = .boolean b

/-- The value is a table of strings that has these attributes and no others. -/
def IsTable (v : Value) (as : Attributes) : Prop :=
  ∃ table, v = .table table ∧ (∀ e ∈ table, ∃ text, e.2 = .string text) ∧
    ∀ k text, (k, text) ∈ as.entries ↔ (k, .string text) ∈ table

/-- Each setting is what the document says of it, or as in `d` if it says nothing. -/
structure Overlays (entries : List (String × Value)) (d s : Settings) : Prop where
  opener : Overlaid IsText (value? entries "delimiters" "open") d.delimiters.opener s.delimiters.opener
  closer : Overlaid IsText (value? entries "delimiters" "close") d.delimiters.closer s.delimiters.closer
  blockClass : Overlaid IsText (value? entries "decorations" "code_block_class") d.decorations.blockClass
    s.decorations.blockClass
  inlineClass : Overlaid IsText (value? entries "decorations" "inline_code_class") d.decorations.inlineClass
    s.decorations.inlineClass
  attributes : Overlaid IsTable (value? entries "decorations" "attributes") d.decorations.attributes
    s.decorations.attributes
  language : Overlaid IsText (value? entries "highlight" "language") d.highlight.language s.highlight.language
  memoize : Overlaid IsFlag (value? entries "highlight" "memoize_regions") d.highlight.memoize s.highlight.memoize

/-! ### Fields -/

section
variable {α : Type} {Holds : Value → α → Prop} {name : String} {default x : α} {read : Value → Option α}

theorem field_eq_some (hread : ∀ v, fields.lookup name = some v → read v = some x → Holds v x)
    (h : field fields name default read = some x) : Overlaid Holds (fields.lookup name) default x := by
  rw [field] at h
  cases hv : fields.lookup name with
  | none =>
    rw [hv] at h
    cases h
    exact rfl
  | some v =>
    rw [hv] at h
    exact hread v hv h

theorem exists_field (hread : ∀ v, fields.lookup name = some v → ∃ x, read v = some x) :
    ∃ x, field fields name default read = some x := by
  rw [field]
  cases hv : fields.lookup name with
  | none => exact ⟨default, rfl⟩
  | some v => exact hread v hv

theorem Overlaid.holds {v : Value} {given? : Option Value} (h : Overlaid Holds given? default x)
    (hv : given? = some v) : Holds v x := by
  subst hv
  exact h

/-- A missing section is read as an empty one. -/
theorem field_section (hempty : read (.table []) = some default)
    (htable : ∀ v, entries.lookup name = some v → ∃ fields, v = .table fields) :
    field entries name default read = read (.table (sectionOf entries name)) := by
  rw [field, sectionOf]
  cases hv : entries.lookup name with
  | none => exact hempty.symm
  | some v =>
    obtain ⟨fields, rfl⟩ := htable v hv
    rfl

end

theorem isText_of_string? {v : Value} {text : String} (h : v.string? = some text) : IsText v text := by
  cases v <;> cases h
  rfl

theorem isFlag_of_boolean? {v : Value} {b : Bool} (h : v.boolean? = some b) : IsFlag v b := by
  cases v <;> cases h
  rfl

/-! ### Attributes -/

theorem eq_strings_of_mapM {es : List (String × String)}
    (h : fields.mapM (fun (k, v) => v.string?.map fun s => (k, s)) = some es) :
    fields = es.map fun e => (e.1, .string e.2) := by
  induction fields generalizing es with
  | nil =>
    cases h
    rfl
  | cons f fs ih =>
    rw [List.mapM_cons] at h
    obtain ⟨e, he, h⟩ := Option.bind_eq_some_iff.1 h
    obtain ⟨es', hes, h⟩ := Option.bind_eq_some_iff.1 h
    cases h
    obtain ⟨text, htext, rfl⟩ := Option.map_eq_some_iff.1 he
    obtain ⟨k, v⟩ := f
    obtain rfl : v = .string text := isText_of_string? htext
    rw [ih hes]
    rfl

theorem isTable_of_readAttributes {v : Value} {as : Attributes} (hdistinct : v.Distinct)
    (hdate : ∀ d, v ≠ .datetime d) (h : readAttributes v = some as) : IsTable v as := by
  obtain ⟨table, htable, h⟩ := Option.bind_eq_some_iff.1 h
  obtain ⟨es, hes, h⟩ := Option.bind_eq_some_iff.1 h
  cases h
  cases v with
  | table entries =>
    cases htable
    obtain rfl := eq_strings_of_mapM hes
    cases hdistinct with
    | table hkeys _ =>
      have hkeys : (es.map (·.1)).Nodup := by rwa [List.map_map] at hkeys
      refine ⟨_, rfl, ?_, fun k text => ?_⟩
      · intro e he
        obtain ⟨e', -, rfl⟩ := List.mem_map.1 he
        exact ⟨e'.2, rfl⟩
      · rw [Attributes.mem_ofList hkeys, List.mem_map]
        constructor
        · intro hmem
          exact ⟨_, hmem, rfl⟩
        · rintro ⟨e, hmem, heq⟩
          cases heq
          exact hmem
  | datetime d => exact absurd rfl (hdate d)
  | _ => cases htable

theorem exists_readAttributes (h : ∀ e ∈ fields, ∃ text, e.2 = .string text) :
    ∃ as, readAttributes (.table fields) = some as := by
  obtain ⟨es, rfl⟩ : ∃ es : List (String × String), fields = es.map fun e => (e.1, .string e.2) := by
    induction fields with
    | nil => exact ⟨[], rfl⟩
    | cons f fs ih =>
      obtain ⟨⟨text, htext⟩, hfs⟩ := List.forall_mem_cons.1 h
      obtain ⟨es, rfl⟩ := ih hfs
      obtain ⟨k, v⟩ := f
      obtain rfl : v = .string text := htext
      exact ⟨(k, text) :: es, rfl⟩
  refine ⟨Attributes.ofList es, ?_⟩
  simp only [readAttributes, Value.entries?, Option.bind_eq_bind, Option.bind_some, mapM_strings]

/-! ### Sections -/

theorem readDelimiters_eq_some {d : DelimiterSettings} : readDelimiters (.table fields) = some d ↔
    field fields "open" Delimiters.standardOpen Value.string? = some d.opener ∧
      field fields "close" Delimiters.standardClose Value.string? = some d.closer := by
  simp only [readDelimiters, Value.fields?, Option.bind_eq_bind, Option.bind_some, Option.bind_eq_some_iff]
  constructor
  · rintro ⟨opener, hopener, closer, hcloser, heq⟩
    cases heq
    exact ⟨hopener, hcloser⟩
  · rintro ⟨hopener, hcloser⟩
    exact ⟨_, hopener, _, hcloser, rfl⟩

theorem readDecorations_eq_some {d : DecorationSettings} : readDecorations (.table fields) = some d ↔
    field fields "code_block_class" ({} : DecorationSettings).blockClass Value.string? = some d.blockClass ∧
      field fields "inline_code_class" ({} : DecorationSettings).inlineClass Value.string? = some d.inlineClass ∧
      field fields "attributes" ({} : DecorationSettings).attributes readAttributes = some d.attributes := by
  simp only [readDecorations, Value.fields?, Option.bind_eq_bind, Option.bind_some, Option.bind_eq_some_iff]
  constructor
  · rintro ⟨blockClass, hblock, inlineClass, hinline, attributes, hattributes, heq⟩
    cases heq
    exact ⟨hblock, hinline, hattributes⟩
  · rintro ⟨hblock, hinline, hattributes⟩
    exact ⟨_, hblock, _, hinline, _, hattributes, rfl⟩

theorem readHighlight_eq_some {d : HighlightSettings} : readHighlight (.table fields) = some d ↔
    field fields "language" ({} : HighlightSettings).language Value.string? = some d.language ∧
      field fields "memoize_regions" ({} : HighlightSettings).memoize Value.boolean? = some d.memoize := by
  simp only [readHighlight, Value.fields?, Option.bind_eq_bind, Option.bind_some, Option.bind_eq_some_iff]
  constructor
  · rintro ⟨language, hlanguage, memoize, hmemoize, heq⟩
    cases heq
    exact ⟨hlanguage, hmemoize⟩
  · rintro ⟨hlanguage, hmemoize⟩
    exact ⟨_, hlanguage, _, hmemoize, rfl⟩

theorem ofEntries?_eq_some (h : Sectioned entries) : ofEntries? entries = some s ↔
    readDelimiters (.table (sectionOf entries "delimiters")) = some s.delimiters ∧
      readDecorations (.table (sectionOf entries "decorations")) = some s.decorations ∧
      readHighlight (.table (sectionOf entries "highlight")) = some s.highlight := by
  have hdelimiters : field entries "delimiters" {} readDelimiters = _ := field_section rfl (h _ (by simp))
  have hdecorations : field entries "decorations" {} readDecorations = _ := field_section rfl (h _ (by simp))
  have hhighlight : field entries "highlight" {} readHighlight = _ := field_section rfl (h _ (by simp))
  simp only [ofEntries?, Option.bind_eq_bind, Option.bind_eq_some_iff, hdelimiters, hdecorations, hhighlight]
  constructor
  · rintro ⟨delimiters, hdelimiters, decorations, hdecorations, highlight, hhighlight, heq⟩
    cases heq
    exact ⟨hdelimiters, hdecorations, hhighlight⟩
  · rintro ⟨hdelimiters, hdecorations, hhighlight⟩
    exact ⟨_, hdelimiters, _, hdecorations, _, hhighlight, rfl⟩

/-! ### Documents -/

theorem distinct_of_value? {group name : String} {v : Value} (h : (Value.table entries).Distinct)
    (hv : value? entries group name = some v) : v.Distinct := by
  rw [value?, sectionOf] at hv
  split at hv
  · rename_i fields hfields
    exact (h.lookup hfields).lookup hv
  · cases hv

theorem overlays_of_ofEntries? (hsections : Sectioned entries) (hdistinct : (Value.table entries).Distinct)
    (hdate : ∀ d, value? entries "decorations" "attributes" ≠ some (.datetime d))
    (h : ofEntries? entries = some s) : Overlays entries {} s := by
  obtain ⟨hdelimiters, hdecorations, hhighlight⟩ := (ofEntries?_eq_some hsections).1 h
  obtain ⟨hopener, hcloser⟩ := readDelimiters_eq_some.1 hdelimiters
  obtain ⟨hblock, hinline, hattributes⟩ := readDecorations_eq_some.1 hdecorations
  obtain ⟨hlanguage, hmemoize⟩ := readHighlight_eq_some.1 hhighlight
  have htext : ∀ {fields : List (String × Value)} {name default text : String},
      field fields name default Value.string? = some text → Overlaid IsText (fields.lookup name) default text :=
    fun h => field_eq_some (fun _ _ => isText_of_string?) h
  exact {
    opener := htext hopener
    closer := htext hcloser
    blockClass := htext hblock
    inlineClass := htext hinline
    attributes := field_eq_some (fun v hv => isTable_of_readAttributes (distinct_of_value? hdistinct hv)
      fun d heq => hdate d (heq ▸ hv)) hattributes
    language := htext hlanguage
    memoize := field_eq_some (fun _ _ => isFlag_of_boolean?) hmemoize }

theorem exists_ofEntries? (hsections : Sectioned entries) (h : WellTyped entries) :
    ∃ s, ofEntries? entries = some s := by
  have htext : ∀ p ∈ textFields, ∀ default, ∃ text,
      field (sectionOf entries p.1) p.2 default Value.string? = some text := by
    intro p hp default
    refine exists_field fun v hv => ?_
    obtain ⟨text, rfl⟩ := h.texts p hp v hv
    exact ⟨text, rfl⟩
  obtain ⟨opener, hopener⟩ := htext ("delimiters", "open") (by simp [textFields]) Delimiters.standardOpen
  obtain ⟨closer, hcloser⟩ := htext ("delimiters", "close") (by simp [textFields]) Delimiters.standardClose
  obtain ⟨blockClass, hblock⟩ := htext ("decorations", "code_block_class") (by simp [textFields])
    ({} : DecorationSettings).blockClass
  obtain ⟨inlineClass, hinline⟩ := htext ("decorations", "inline_code_class") (by simp [textFields])
    ({} : DecorationSettings).inlineClass
  obtain ⟨language, hlanguage⟩ := htext ("highlight", "language") (by simp [textFields])
    ({} : HighlightSettings).language
  obtain ⟨attributes, hattributes⟩ : ∃ as, field (sectionOf entries "decorations") "attributes"
      ({} : DecorationSettings).attributes readAttributes = some as := by
    refine exists_field fun v hv => ?_
    obtain ⟨table, rfl, htable⟩ := h.attributes v hv
    exact exists_readAttributes htable
  obtain ⟨memoize, hmemoize⟩ : ∃ b, field (sectionOf entries "highlight") "memoize_regions"
      ({} : HighlightSettings).memoize Value.boolean? = some b := by
    refine exists_field fun v hv => ?_
    obtain ⟨b, rfl⟩ := h.memoize v hv
    exact ⟨b, rfl⟩
  refine ⟨⟨⟨opener, closer⟩, ⟨blockClass, inlineClass, attributes⟩, ⟨language, memoize⟩⟩, ?_⟩
  exact (ofEntries?_eq_some hsections).2 ⟨readDelimiters_eq_some.2 ⟨hopener, hcloser⟩,
    readDecorations_eq_some.2 ⟨hblock, hinline, hattributes⟩, readHighlight_eq_some.2 ⟨hlanguage, hmemoize⟩⟩

theorem wellTyped_of_overlays {d : Settings} (h : Overlays entries d s) : WellTyped entries where
  texts p hp v hv := by
    simp only [textFields, List.mem_cons, List.not_mem_nil, or_false] at hp
    rcases hp with rfl | rfl | rfl | rfl | rfl
    · exact ⟨_, h.opener.holds hv⟩
    · exact ⟨_, h.closer.holds hv⟩
    · exact ⟨_, h.blockClass.holds hv⟩
    · exact ⟨_, h.inlineClass.holds hv⟩
    · exact ⟨_, h.language.holds hv⟩
  attributes v hv := by
    obtain ⟨table, htable, hstrings, -⟩ := h.attributes.holds hv
    exact ⟨table, htable, hstrings⟩
  memoize v hv := ⟨_, h.memoize.holds hv⟩

/-- A document whose sections are tables is refused just if a field that it names has a value of the wrong type.
Otherwise each setting is what the document says of it, or the default. -/
theorem loadFrom_overlays (f : Folder) (path text : String) (entries : List (String × Value))
    (hfile : f.read path = .ok text) (hread : Toml.read? text.toList = some entries) (hsections : Sectioned entries)
    (hdate : ∀ d, value? entries "decorations" "attributes" ≠ some (.datetime d)) :
    (¬WellTyped entries → (loadFrom Folder.storage path).run f = (.error .malformed, f)) ∧
      (WellTyped entries → ∃ s, (loadFrom Folder.storage path).run f = (.ok s, f) ∧ Overlays entries {} s) := by
  have hload : (loadFrom Folder.storage path).run f = (ofText text.toList, f) := by
    have hstored : (Folder.storage.read path).run f = (.ok text, f) := by
      show (f.read path, f) = _
      rw [hfile]
    rw [loadFrom, run_bind, hstored]
    rfl
  have hoverlays : ∀ s, ofEntries? entries = some s → Overlays entries {} s := fun s hs =>
    overlays_of_ofEntries? hsections (Toml.distinct_read? hread) hdate hs
  rw [hload, ofText, hread, Option.bind_some]
  constructor
  · intro hwrong
    cases hs : ofEntries? entries with
    | none => rfl
    | some s => exact absurd (wellTyped_of_overlays (hoverlays s hs)) hwrong
  · intro htyped
    obtain ⟨s, hs⟩ := exists_ofEntries? hsections htyped
    refine ⟨s, ?_, hoverlays s hs⟩
    rw [hs]

/-- A file with an empty table of attributes, a flag, and a key that means nothing. -/
def partialFile : String :=
  "[decorations]\nx = 1\nattributes = \x7b\x7d\n[highlight]\nmemoize_regions = true\n"

def partialFolder : Folder := ⟨"home", .folder [("c.toml", .file partialFile.toUTF8)]⟩

theorem loadFrom_overlays_partial :
    ∃ s, (loadFrom Folder.storage "c.toml").run partialFolder = (.ok s, partialFolder) ∧
      s.decorations.attributes = .empty ∧ s.highlight.memoize = true ∧
      s.delimiters.opener = Delimiters.standardOpen := by
  have hfile : partialFolder.read "c.toml" = .ok partialFile := by
    have hnames : partialFolder.names? "c.toml" = some ["c.toml"] := by cbv
    have hfind : partialFolder.root.find ["c.toml"] = .ok (.file partialFile.toUTF8) := by
      simp [partialFolder, FolderEntry.find, FolderEntry.lookup]
    simp only [Folder.read, hnames, hfind]
    exact FolderEntry.text_file partialFile
  let decorations := [("x", Value.integer 1), ("attributes", .table [])]
  let highlight := [("memoize_regions", Value.boolean true)]
  let entries := [("decorations", Value.table decorations), ("highlight", .table highlight)]
  have hread : Toml.read? partialFile.toList = some entries := by cbv
  have hsections : Sectioned entries := by
    intro name hname v hv
    simp only [List.mem_cons, List.not_mem_nil, or_false] at hname
    rcases hname with rfl | rfl | rfl <;> cases hv <;> exact ⟨_, rfl⟩
  have hattributes : value? entries "decorations" "attributes" = some (.table []) := rfl
  have hmemoize : value? entries "highlight" "memoize_regions" = some (.boolean true) := rfl
  have htyped : WellTyped entries := {
    texts := by
      intro p hp v hv
      simp only [textFields, List.mem_cons, List.not_mem_nil, or_false] at hp
      rcases hp with rfl | rfl | rfl | rfl | rfl <;> cases hv
    attributes := by
      intro v hv
      obtain rfl : Value.table [] = v := Option.some.inj (hattributes.symm.trans hv)
      exact ⟨[], rfl, by simp⟩
    memoize := by
      intro v hv
      obtain rfl : Value.boolean true = v := Option.some.inj (hmemoize.symm.trans hv)
      exact ⟨true, rfl⟩ }
  obtain ⟨s, hrun, h⟩ := (loadFrom_overlays partialFolder "c.toml" partialFile entries hfile hread hsections
    (by simp [hattributes])).2 htyped
  refine ⟨s, hrun, ?_, ?_, h.opener⟩
  · obtain ⟨table, htable, -, hmem⟩ := h.attributes.holds hattributes
    cases htable
    exact Attributes.ext (List.eq_nil_iff_forall_not_mem.2 fun a ha => by simpa using (hmem a.1 a.2).1 ha)
  · have hflag : Value.boolean true = .boolean s.highlight.memoize := h.memoize.holds hmemoize
    exact (Value.boolean.inj hflag).symm

end Settings
end Scriptlet
