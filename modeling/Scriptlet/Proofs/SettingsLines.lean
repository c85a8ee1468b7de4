import Scriptlet.Proofs.QuotedStrings
import Scriptlet.Settings.File

/-!
# Lines are read back

A settings document is read line by line: `ReadsAs` says which statements a piece of text holds, whatever
follows it. Every line that the writer makes holds one statement (`readsAs_stringLine`, `readsAs_boolLine`,
`readsAs_tableText`), an empty line holds none, and pieces are put together by `ReadsAs.append`.
-/

namespace Scriptlet.Toml

variable {text u v rest : List Char} {ss ss' : List Statement} {s : Statement} {c : Char}

/-! ### Pieces of a document -/

/-- The lines of the text are the statements, whatever follows. A line takes one step. -/
def ReadsAs (text : List Char) (ss : List Statement) : Prop :=
  ∃ n ≤ text.length, ∀ fuel rest,
    readStatements (fuel + 1 + n) (text ++ rest) = (readStatements (fuel + 1) rest).map (ss ++ ·)

namespace ReadsAs

theorem nil : ReadsAs [] [] :=
  ⟨0, Nat.le_refl _, fun fuel rest => by simp⟩

theorem append (h : ReadsAs u ss) (h' : ReadsAs v ss') : ReadsAs (u ++ v) (ss ++ ss') := by
  obtain ⟨n, hn, hu⟩ := h
  obtain ⟨n', hn', hv⟩ := h'
  refine ⟨n' + n, by rw [List.length_append]; omega, fun fuel rest => ?_⟩
  rw [List.append_assoc, show fuel + 1 + (n' + n) = fuel + n' + 1 + n by omega, hu,
    show fuel + n' + 1 = fuel + 1 + n' by omega, hv, Option.map_map]
  congr 1
  funext r
  exact (List.append_assoc ..).symm

theorem emptyLine : ReadsAs ['\n'] [] :=
  ⟨1, Nat.le_refl _, fun fuel rest => by simp [readStatements, skipBlanks, isBlank]⟩

theorem line (hc : c ∉ [' ', '\t', '#', '\n', '\r'])
    (h : ∀ fuel rest, readStatement (fuel + 1) (c :: u ++ rest) = some (s, rest)) : ReadsAs (c :: u) [s] := by
  refine ⟨1, by simp, fun fuel rest => ?_⟩
  have hskip : skipBlanks (c :: u ++ rest) = c :: u ++ rest := by
    simp only [List.mem_cons, not_or] at hc
    simp [skipBlanks, isBlank, hc]
  rw [readStatements, hskip]
  split
  · rename_i heq
    cases heq
  · rename_i heq
    exact absurd (by simp [(List.cons.inj heq).1]) hc
  · rename_i heq
    exact absurd (by simp [(List.cons.inj heq).1]) hc
  · rename_i heq
    exact absurd (by simp [(List.cons.inj heq).1]) hc
  · rw [h]
    rfl

/-- The statements of a whole document. -/
theorem read (h : ReadsAs text ss) : readStatements (2 * text.length + 2) text = some ss := by
  obtain ⟨n, hn, hread⟩ := h
  have := hread (2 * text.length - n + 1) []
  rw [List.append_nil, show 2 * text.length - n + 1 + 1 + n = 2 * text.length + 2 by omega] at this
  rw [this]
  simp [readStatements, skipBlanks]

end ReadsAs

/-! ### Lines with a key and a value -/

theorem skipBlanks_of_head (hc : c ∉ [' ', '\t', '#', '\n', '\r', '[']) : skipBlanks (c :: u) = c :: u := by
  simp only [List.mem_cons, not_or] at hc
  simp [skipBlanks, isBlank, hc]

theorem skipBlanks_bare (h : Bare u) (rest : List Char) : skipBlanks (u ++ rest) = u ++ rest := by
  obtain ⟨c, u, rfl, hc⟩ := head_bare h
  exact skipBlanks_of_head hc

theorem readKey_key (cs rest : List Char) :
    readKey (Writer.key cs ++ ' ' :: '=' :: rest) = some (([], String.ofList cs), '=' :: rest) := by
  have hskip : skipBlanks (Writer.key cs ++ ' ' :: '=' :: rest) = Writer.key cs ++ ' ' :: '=' :: rest := by
    obtain ⟨c, u, hkey, hc⟩ := head_key cs
    rw [hkey]
    exact skipBlanks_of_head hc
  have hparts : readKeyParts nestingLimit [] (Writer.key cs ++ ' ' :: '=' :: rest) =
      some ([String.ofList cs], '=' :: rest) := by
    rw [nestingLimit, readKeyParts, hskip, readSimpleKey_key]
    simp [skipBlanks, isBlank]
  rw [readKey, hparts]
  rfl

theorem readValue_string (fuel depth : Nat) (cs rest : List Char) : readValue (fuel + 1) depth
    (Writer.string cs ++ '\n' :: rest) = some (.string (String.ofList cs), '\n' :: rest) := by
  have hread := readString_string cs rest
  obtain ⟨u, hu | hu⟩ := head_string cs <;>
  · rw [hu] at hread ⊢
    rw [List.cons_append] at hread ⊢
    rw [readValue, hread]
    rfl

theorem readValue_boolean (fuel depth : Nat) (b : Bool) (rest : List Char) : readValue (fuel + 1) depth
    ((if b then "true" else "false").toList ++ '\n' :: rest) = some (.boolean b, '\n' :: rest) := by
  cases b <;> rfl

theorem skipBlanks_string (cs rest : List Char) :
    skipBlanks (' ' :: (Writer.string cs ++ rest)) = Writer.string cs ++ rest := by
  obtain ⟨u, hu | hu⟩ := head_string cs <;> rw [hu] <;> rfl

theorem readsAs_pair {k : String} {value : List Char} {v : Value}
    (hskip : ∀ rest, skipBlanks (' ' :: (value ++ rest)) = value ++ rest)
    (hvalue : ∀ fuel depth rest, readValue (fuel + 1) depth (value ++ '\n' :: rest) = some (v, '\n' :: rest)) :
    ReadsAs (Writer.key k.toList ++ [' ', '=', ' '] ++ value ++ ['\n']) [.pair [] k v] := by
  obtain ⟨c, u, hkey, hc⟩ := head_key k.toList
  have htext : Writer.key k.toList ++ [' ', '=', ' '] ++ value ++ ['\n'] =
      c :: (u ++ [' ', '=', ' '] ++ value ++ ['\n']) := by
    rw [hkey]
    rfl
  rw [htext]
  refine .line (fun h => hc (by simp_all)) fun fuel rest => ?_
  rw [← htext]
  have hsplit : Writer.key k.toList ++ [' ', '=', ' '] ++ value ++ ['\n'] ++ rest =
      Writer.key k.toList ++ ' ' :: '=' :: (' ' :: (value ++ '\n' :: rest)) := by simp
  have hread := readKey_key k.toList (' ' :: (value ++ '\n' :: rest))
  rw [hsplit]
  rw [hkey] at hread ⊢
  rw [readStatement.eq_def]
  split
  · rename_i heq
    exact absurd (by simp [(List.cons.inj heq).1]) hc
  · rename_i heq
    exact absurd (by simp [(List.cons.inj heq).1]) hc
  · rw [hread]
    simp only [hskip, hvalue, String.ofList_toList]
    rfl

theorem readsAs_stringLine (k v : String) : ReadsAs (Writer.stringLine k v) [.pair [] k (.string v)] := by
  refine readsAs_pair (skipBlanks_string v.toList) fun fuel depth rest => ?_
  rw [readValue_string, String.ofList_toList]

theorem readsAs_boolLine (k : String) (b : Bool) : ReadsAs (Writer.boolLine k b) [.pair [] k (.boolean b)] :=
  readsAs_pair (fun rest => by cases b <;> rfl) fun fuel depth rest => readValue_boolean fuel depth b rest

/-! ### Tables -/

theorem readKey_bare (h : Bare u) (rest : List Char) :
    readKey (u ++ ']' :: rest) = some (([], String.ofList u), ']' :: rest) := by
  have hparts : readKeyParts nestingLimit [] (u ++ ']' :: rest) = some ([String.ofList u], ']' :: rest) := by
    rw [nestingLimit, readKeyParts, skipBlanks_bare h, readSimpleKey_bare h fun c hc => by cases hc; rfl]
    simp [skipBlanks, isBlank]
  rw [readKey, hparts]
  rfl

theorem readKey_dotted (h : Bare u) (h' : Bare v) (rest : List Char) : readKey (u ++ '.' :: (v ++ ']' :: rest)) =
    some (([String.ofList u], String.ofList v), ']' :: rest) := by
  have hparts : readKeyParts nestingLimit [] (u ++ '.' :: (v ++ ']' :: rest)) =
      some ([String.ofList v, String.ofList u], ']' :: rest) := by
    rw [nestingLimit, readKeyParts, skipBlanks_bare h, readSimpleKey_bare h fun c hc => by cases hc; rfl]
    show readKeyParts 79 [String.ofList u] (v ++ ']' :: rest) = _
    rw [readKeyParts, skipBlanks_bare h', readSimpleKey_bare h' fun c hc => by cases hc; rfl]
    simp [skipBlanks, isBlank]
  rw [readKey, hparts]
  rfl

/-- A header whose key is read as `around` and `key`, with the lines under it. -/
theorem readsAs_tableText {name key : String} {around : List String} {lines : List (List Char)}
    (hhead : name.toList.head? ≠ some '[')
    (hkey : ∀ rest, readKey (name.toList ++ ']' :: rest) = some ((around, key), ']' :: rest))
    (hlines : ReadsAs lines.flatten ss) :
    ReadsAs (Writer.tableText name lines) (.header around key :: ss) := by
  have hheader : ReadsAs ('[' :: (name.toList ++ [']', '\n'])) [.header around key] := by
    refine .line (by decide) fun fuel rest => ?_
    have htext : '[' :: (name.toList ++ [']', '\n']) ++ rest = '[' :: (name.toList ++ ']' :: '\n' :: rest) := by simp
    rw [htext, readStatement.eq_def]
    split
    · rename_i heq
      cases hname : name.toList with
      | nil =>
        rw [hname] at heq
        simp at heq
      | cons d ds =>
        rw [hname] at heq hhead
        exact absurd (congrArg some (List.cons.inj (List.cons.inj heq).2).1) hhead
    · rename_i heq
      obtain rfl := (List.cons.inj heq).2
      rw [hkey]
      rfl
    · rename_i hother
      exact absurd rfl (hother _)
  exact hheader.append hlines

theorem readsAs_section {name : String} {lines : List (List Char)} (h : Bare name.toList)
    (hlines : ReadsAs lines.flatten ss) : ReadsAs (Writer.tableText name lines) (.header [] name :: ss) := by
  obtain ⟨c, u, hname, hc⟩ := head_bare h
  refine readsAs_tableText (fun heq => hc ?_) (fun rest => ?_) hlines
  · rw [hname] at heq
    simp [Option.some.inj heq]
  · rw [readKey_bare h, String.ofList_toList]

theorem readsAs_stringLines (pairs : List (String × String)) :
    ReadsAs (pairs.map fun p => Writer.stringLine p.1 p.2).flatten
      (pairs.map fun p => .pair [] p.1 (.string p.2)) := by
  induction pairs with
  | nil => exact .nil
  | cons p ps ih => exact (readsAs_stringLine p.1 p.2).append ih

end Scriptlet.Toml

namespace Scriptlet
open Toml

/-! ### The document with all settings -/

/-- The keys and values of a group of settings, in the order they are written. -/
def DelimiterSettings.pairs (s : DelimiterSettings) : List (String × Value) :=
  [("open", .string s.opener), ("close", .string s.closer)]

@[inherit_doc DelimiterSettings.pairs]
def DecorationSettings.pairs (s : DecorationSettings) : List (String × Value) :=
  [("code_block_class", .string s.blockClass), ("inline_code_class", .string s.inlineClass)]

@[inherit_doc DelimiterSettings.pairs]
def HighlightSettings.pairs (s : HighlightSettings) : List (String × Value) :=
  [("language", .string s.language), ("memoize_regions", .boolean s.memoize)]

@[inherit_doc DelimiterSettings.pairs]
def Attributes.pairs (as : Attributes) : List (String × Value) :=
  as.map fun a => (a.1, .string a.2)

namespace Settings

/-- The statements of the document. -/
def statements (s : Settings) : List Statement :=
  .header [] "delimiters" :: ((s.delimiters.pairs.map fun p => .pair [] p.1 p.2) ++
  .header [] "decorations" :: ((s.decorations.pairs.map fun p => .pair [] p.1 p.2) ++
  .header ["decorations"] "attributes" :: ((s.decorations.attributes.pairs.map fun p => .pair [] p.1 p.2) ++
  .header [] "highlight" :: ((s.highlight.pairs.map fun p => .pair [] p.1 p.2) ++ []))))

theorem bare_decorations : Bare "decorations".toList := ⟨by decide, by decide⟩

/-- The document with all settings is read line by line as it is written. -/
theorem readsAs_toText (s : Settings) : ReadsAs s.toText s.statements := by
  have hdelimiters : ReadsAs (Writer.tableText "delimiters" [Writer.stringLine "open" s.delimiters.opener,
      Writer.stringLine "close" s.delimiters.closer])
      (.header [] "delimiters" :: s.delimiters.pairs.map fun p => .pair [] p.1 p.2) :=
    readsAs_section ⟨by decide, by decide⟩
      (readsAs_stringLines [("open", s.delimiters.opener), ("close", s.delimiters.closer)])
  have hdecorations : ReadsAs (Writer.tableText "decorations"
      [Writer.stringLine "code_block_class" s.decorations.blockClass,
        Writer.stringLine "inline_code_class" s.decorations.inlineClass])
      (.header [] "decorations" :: s.decorations.pairs.map fun p => .pair [] p.1 p.2) :=
    readsAs_section bare_decorations (readsAs_stringLines
      [("code_block_class", s.decorations.blockClass), ("inline_code_class", s.decorations.inlineClass)])
  have hattributes : ReadsAs (Writer.tableText "decorations.attributes"
      (s.decorations.attributes.map fun a => Writer.stringLine a.1 a.2))
      (.header ["decorations"] "attributes" ::
        s.decorations.attributes.pairs.map fun p => .pair [] p.1 p.2) := by
    rw [Attributes.pairs, Attributes.map, Attributes.map, List.map_map]
    exact readsAs_tableText (by decide)
      (readKey_dotted (v := "attributes".toList) bare_decorations ⟨by decide, by decide⟩) (readsAs_stringLines _)
  have hhighlight : ReadsAs (Writer.tableText "highlight" [Writer.stringLine "language" s.highlight.language,
      Writer.boolLine "memoize_regions" s.highlight.memoize])
      (.header [] "highlight" :: s.highlight.pairs.map fun p => .pair [] p.1 p.2) :=
    readsAs_section ⟨by decide, by decide⟩
      ((readsAs_stringLine "language" _).append ((readsAs_boolLine "memoize_regions" _).append .nil))
  have hall := hdelimiters.append (ReadsAs.emptyLine.append (hdecorations.append (ReadsAs.emptyLine.append
    (hattributes.append (ReadsAs.emptyLine.append hhighlight)))))
  simpa [toText, sections, statements, List.intercalate, List.intersperse] using hall

end Settings

end Scriptlet
