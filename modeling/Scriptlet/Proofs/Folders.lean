import Mathlib
import Scriptlet.Folder

/-!
# Files in folders

A file is found again where it has been written (`FolderEntry.find_write`), with its text, so a folder in memory
keeps what is put into it (`Folder.storage_keeps`). A path made of names leads along these names
(`Folder.names?_pathTo`), and its parent path along all but the last (`parentPath_pathTo`). Making that folder and
writing the file in it succeeds just if nothing is in the way (`FolderEntry.makeFolder_write_iff`).
-/

namespace Scriptlet

/-- What has been written at a path is read there, and reading changes nothing. -/
def Storage.Keeps {σ : Type} (storage : Storage (StateM σ)) : Prop :=
  ∀ path text st st', (storage.write path text).run st = (.ok (), st') →
    (storage.read path).run st' = (.ok text, st')

/-! ### Paths of names -/

/-- The name leads to a place of its own: it is neither empty nor a step that stays or goes up. -/
structure IsName (name : String) : Prop where
  nonempty : name ≠ ""
  ne_here : name ≠ "."
  ne_up : name ≠ ".."
  single : '/' ∉ name.toList

/-- The path along the names. -/
def pathTo (names : List String) : String := String.ofList (joinPath (names.map String.toList))

section
variable {cs p : List Char} {ps : List (List Char)} {name : String} {names : List String}

theorem splitPath_of_not_mem (h : '/' ∉ cs) : splitPath cs = [cs] := by
  induction cs with
  | nil => rfl
  | cons c cs ih =>
    obtain ⟨hc, hcs⟩ := not_or.1 (mt List.mem_cons.2 h)
    rw [splitPath, if_neg (by simpa using Ne.symm hc), ih hcs]

theorem splitPath_append (h : '/' ∉ p) (cs : List Char) : splitPath (p ++ '/' :: cs) = p :: splitPath cs := by
  induction p with
  | nil => rfl
  | cons c p ih =>
    obtain ⟨hc, hp⟩ := not_or.1 (mt List.mem_cons.2 h)
    rw [List.cons_append, splitPath, if_neg (by simpa using Ne.symm hc), ih hp]

theorem splitPath_joinPath (h : ∀ q ∈ p :: ps, '/' ∉ q) : splitPath (joinPath (p :: ps)) = p :: ps := by
  induction ps generalizing p with
  | nil => exact splitPath_of_not_mem (h p (List.mem_cons_self ..))
  | cons q ps ih =>
    rw [joinPath, splitPath_append (h p (List.mem_cons_self ..)), ih fun r hr => h r (List.mem_cons_of_mem _ hr)]
    simp

theorem exists_joinPath (ps : List (List Char)) (p : List Char) : ∃ before, joinPath (ps ++ [p]) = before ++ p := by
  induction ps with
  | nil => exact ⟨[], rfl⟩
  | cons q ps ih =>
    obtain ⟨before, hbefore⟩ := ih
    refine ⟨q ++ '/' :: before, ?_⟩
    rw [List.cons_append, joinPath, hbefore]
    · simp
    · simp

theorem splitPath_pathTo (h : ∀ n ∈ name :: names, IsName n) :
    splitPath (pathTo (name :: names)).toList = (name :: names).map String.toList := by
  rw [pathTo, String.toList_ofList, List.map_cons]
  refine splitPath_joinPath fun q hq => ?_
  rw [← List.map_cons] at hq
  obtain ⟨n, hn, rfl⟩ := List.mem_map.1 hq
  exact (h n hn).single

theorem IsName.toList_ne_nil (h : IsName name) : name.toList ≠ [] :=
  fun heq => h.nonempty (String.toList_eq_nil_iff.1 heq)

theorem IsName.not_isIdle (h : IsName name) : isIdle name.toList = false := by
  have hhere : name.toList ≠ ['.'] := fun heq => h.ne_here (String.toList_inj.1 heq)
  simp [isIdle, h.toList_ne_nil, hhere]

theorem endsInSlash_pathTo (h : IsName name) (names : List String) :
    endsInSlash (pathTo (names ++ [name])) = false := by
  obtain ⟨before, hbefore⟩ := exists_joinPath (names.map String.toList) name.toList
  rw [endsInSlash, pathTo, String.toList_ofList, List.map_append, List.map_singleton, hbefore,
    List.getLast?_append_of_ne_nil _ h.toList_ne_nil, List.getLast?_eq_getLast_of_ne_nil h.toList_ne_nil]
  refine beq_eq_false_iff_ne.2 fun heq => h.single ?_
  rw [← Option.some.inj heq]
  exact List.getLast_mem h.toList_ne_nil

/-- The folder around a place is where all names but the last lead. -/
theorem parentPath_pathTo {first last : String} {names : List String}
    (h : ∀ n ∈ first :: (names ++ [last]), IsName n) :
    parentPath (pathTo (first :: (names ++ [last]))) = pathTo (first :: names) := by
  have hfirst := h first (List.mem_cons_self ..)
  have hlast : isIdle last.toList = false := (h last (by simp)).not_isIdle
  have hnames : (names.map String.toList).reverse.dropWhile isIdle = (names.map String.toList).reverse := by
    refine List.dropWhile_eq_self_iff.2 fun hpos => ?_
    obtain ⟨n, hn, heq⟩ : ∃ n ∈ names, n.toList = (names.map String.toList).reverse[0] := by
      simpa using List.getElem_mem hpos
    rw [← heq, (h n (by simp [hn])).not_isIdle]
    simp
  rw [parentPath, splitPath_pathTo h]
  simp only [List.map_cons, List.map_append, List.map_nil, List.reverse_append, List.reverse_singleton,
    List.singleton_append, List.dropWhile_cons, hlast, Bool.false_eq_true, ↓reduceIte, hnames, List.reverse_reverse]
  cases names with
  | nil =>
    have hempty : first.toList.isEmpty = false := by
      simpa using fun heq => hfirst.nonempty heq
    simp [pathTo, joinPath, hempty]
  | cons n ns => rfl

end

/-! ### Files in a folder -/

namespace FolderEntry
variable {entries : List (String × FolderEntry)} {bytes : ByteArray} {name : String} {e r : FolderEntry}

theorem lookup_set (entries : List (String × FolderEntry)) (name : String) (e : FolderEntry) :
    lookup (set entries name e) name = some e := by
  unfold set lookup
  split
  · rename_i h
    induction entries with
    | nil => cases h
    | cons x xs ih =>
      obtain ⟨n, y⟩ := x
      by_cases hn : name = n
      · subst hn
        simp
      · have hne : ¬(n == name) = true := by simpa using Ne.symm hn
        have hne' : (name == n) = false := by simpa using hn
        rw [List.lookup_cons, hne'] at h
        rw [List.map_cons, if_neg hne, List.lookup_cons, hne']
        exact ih h
  · rename_i h
    rw [List.lookup_append, Option.not_isSome_iff_eq_none.1 h]
    simp

/-- All that writing in a folder can do: stay in it, or set the entry of the next name. -/
theorem write_cases {names : List String} (h : write bytes (name :: names) (folder entries) = .ok r) :
    (name = "." ∧ write bytes names (folder entries) = .ok r) ∨
      name ≠ "." ∧ ∃ e, r = folder (set entries name e) ∧
        ((∃ e', write bytes names e' = .ok e) ∨ names = [] ∧ e = file bytes) := by
  rw [write.eq_def] at h
  dsimp only at h
  split at h
  · rename_i hdot
    exact .inl ⟨beq_iff_eq.1 hdot, h⟩
  · rename_i hdot
    refine .inr ⟨fun heq => hdot (beq_iff_eq.2 heq), ?_⟩
    cases hlook : lookup entries name with
    | some e' =>
      rw [hlook] at h
      cases hwrite : write bytes names e' with
      | error x =>
        simp only [hwrite] at h
        cases h
      | ok e =>
        simp only [hwrite] at h
        cases h
        exact ⟨e, rfl, .inl ⟨e', hwrite⟩⟩
    | none =>
      rw [hlook] at h
      cases names with
      | nil =>
        cases h
        exact ⟨file bytes, rfl, .inr ⟨rfl, rfl⟩⟩
      | cons next names => cases h

/-- A folder stays one when a file is written in it. -/
theorem folder_of_write {names : List String} (h : write bytes names (folder entries) = .ok r) :
    ∃ entries', r = folder entries' := by
  induction names with
  | nil => cases h
  | cons name names ih =>
    rcases write_cases h with ⟨-, h⟩ | ⟨-, e, rfl, -⟩
    · exact ih h
    · exact ⟨_, rfl⟩

/-- A file is found where it has been written. -/
theorem find_write {names : List String} (h : write bytes names e = .ok r) : find names r = .ok (file bytes) := by
  induction names generalizing e r with
  | nil =>
    cases e with
    | file old => cases h; rfl
    | folder entries => cases h
  | cons name names ih =>
    cases e with
    | file old => cases h
    | folder entries =>
      rcases write_cases h with ⟨rfl, hsame⟩ | ⟨hname, e, rfl, he⟩
      · obtain ⟨entries', rfl⟩ := folder_of_write hsame
        exact ih hsame
      · rw [find, if_neg (by simpa using hname), lookup_set]
        rcases he with ⟨e', he⟩ | ⟨rfl, rfl⟩
        · exact ih he
        · rfl

theorem text_file (text : String) : (file text.toUTF8).text = .ok text := by
  have hread : String.fromUTF8? text.toUTF8 = some text := by
    rw [String.toUTF8_eq_toByteArray, String.fromUTF8?, dif_pos text.isValidUTF8]
    rfl
  rw [FolderEntry.text, hread]

/-! ### Room for a file -/

/-- No file stands where a folder is needed, and no folder where the file is to be. -/
def Room (dirs : List String) (name : String) (e : FolderEntry) : Prop :=
  (∀ ds, ds <+: dirs → ∀ bytes, find ds e ≠ .ok (file bytes)) ∧
    ∀ entries, find (dirs ++ [name]) e ≠ .ok (folder entries)

theorem find_folder_cons (hname : name ≠ ".") (names : List String) : find (name :: names) (folder entries) =
    match lookup entries name with
    | some e => find names e
    | none => .error .notFound := by
  rw [find]
  exact if_neg (by simpa using hname)

theorem room_empty {dirs : List String} (hdirs : ∀ d ∈ dirs, d ≠ ".") (hname : name ≠ ".") :
    Room dirs name (folder []) := by
  have hnone : ∀ n ns, n ≠ "." → find (n :: ns) (folder []) = .error .notFound := fun n ns hn =>
    find_folder_cons hn ns
  constructor
  · intro ds hds bytes
    cases ds with
    | nil => simp [find]
    | cons d ds => simp [hnone d ds (hdirs d (hds.subset (List.mem_cons_self ..)))]
  · intro entries
    cases dirs with
    | nil => simp [hnone name [] hname]
    | cons d ds => simp [hnone d (ds ++ [name]) (hdirs d (List.mem_cons_self ..))]

/-- There is room in a folder if there is in the first of the folders on the way, which may be missing. -/
theorem room_cons {d : String} {dirs : List String} (hd : d ≠ ".") (hdirs : ∀ d ∈ dirs, d ≠ ".") (hname : name ≠ ".") :
    Room (d :: dirs) name (folder entries) ↔ Room dirs name ((lookup entries d).getD (folder [])) := by
  have hfirst : Room (d :: dirs) name (folder entries) ↔
      (∀ ds, ds <+: dirs → ∀ bytes, find (d :: ds) (folder entries) ≠ .ok (file bytes)) ∧
        ∀ es, find (d :: (dirs ++ [name])) (folder entries) ≠ .ok (folder es) := by
    refine and_congr_left fun _ => ⟨fun h ds hds => h (d :: ds) (List.cons_prefix_cons.2 ⟨rfl, hds⟩), ?_⟩
    intro h ds hds
    rcases List.prefix_cons_iff.1 hds with rfl | ⟨ds, rfl, hrest⟩
    · simp [find]
    · exact h ds hrest
  simp only [hfirst, find_folder_cons hd]
  cases lookup entries d with
  | none => simp [room_empty hdirs hname]
  | some e => rfl

theorem write_of_lookup (hname : name ≠ ".") (he : lookup entries name = some e) (names : List String) :
    write bytes (name :: names) (folder entries) =
      (write bytes names e).map fun e => folder (set entries name e) := by
  rw [write.eq_def]
  simp [hname, he]

theorem write_of_missing (hname : name ≠ ".") (hmissing : lookup entries name = none) :
    write bytes [name] (folder entries) = .ok (folder (set entries name (file bytes))) := by
  rw [write.eq_def]
  simp [hname, hmissing]

theorem makeFolder_cons (hname : name ≠ ".") (names : List String) : makeFolder (name :: names) (folder entries) =
    (makeFolder names ((lookup entries name).getD (folder []))).map fun e => folder (set entries name e) := by
  rw [makeFolder, if_neg (by simpa using hname)]

theorem exists_map_eq_ok {x : Except FileError FolderEntry} {g : FolderEntry → FolderEntry} :
    (∃ r, x.map g = .ok r) ↔ ∃ r, x = .ok r := by
  cases x <;> simp [Except.map]

/-- A file can be written in a folder just if its name is not that of another folder. -/
theorem write_name_iff (hname : name ≠ ".") :
    (∃ r, write bytes [name] (folder entries) = .ok r) ↔ Room [] name (folder entries) := by
  have hroom : Room [] name (folder entries) ↔ ∀ es, find [name] (folder entries) ≠ .ok (folder es) := by
    refine and_iff_right fun ds hds bytes => ?_
    rw [List.prefix_nil.1 hds]
    simp [find]
  rw [hroom, find_folder_cons hname]
  cases he : lookup entries name with
  | none => simp [write_of_missing hname he]
  | some e =>
    rw [write_of_lookup hname he, exists_map_eq_ok]
    cases e <;> simp [write, find]

/-- The folder around a file can be made and the file written in it just if nothing is in the way. -/
theorem makeFolder_write_iff (bytes : ByteArray) {dirs : List String} (hdirs : ∀ d ∈ dirs, d ≠ ".")
    (hname : name ≠ ".") :
    (∃ made, makeFolder dirs e = .ok made ∧ ∃ r, write bytes (dirs ++ [name]) made = .ok r) ↔
      Room dirs name e := by
  induction dirs generalizing e with
  | nil =>
    cases e with
    | file old => simp [makeFolder, Room, find]
    | folder entries => simp [makeFolder, write_name_iff hname]
  | cons d dirs ih =>
    obtain ⟨hd, hdirs⟩ := List.forall_mem_cons.1 hdirs
    cases e with
    | file old =>
      have hroom : ¬Room (d :: dirs) name (file old) := fun h => h.1 [] (List.nil_prefix ..) old rfl
      simp [makeFolder, hroom]
    | folder entries =>
      have hwrite : ∀ made, (∃ r, write bytes (d :: (dirs ++ [name])) (folder (set entries d made)) = .ok r) ↔
          ∃ r, write bytes (dirs ++ [name]) made = .ok r := by
        intro made
        rw [write_of_lookup hd (lookup_set entries d made), exists_map_eq_ok]
      rw [room_cons hd hdirs hname, ← ih hdirs, makeFolder_cons hd]
      cases hmade : makeFolder dirs ((lookup entries d).getD (folder [])) with
      | error x => simp [Except.map]
      | ok made => simp [Except.map, hwrite]

end FolderEntry

namespace Folder
variable {f f' : Folder} {path text : String}

theorem read_write (h : f.write path text.toUTF8 = .ok f') : f'.read path = .ok text := by
  rw [write] at h
  rw [read]
  split at h
  · split at h <;> cases h
  split at h
  · cases h
  · rename_i names hnames
    cases hwrite : f.root.write text.toUTF8 names with
    | error x =>
      rw [hwrite] at h
      cases h
    | ok root =>
      rw [hwrite] at h
      cases h
      have hnames' : names? { f with root } path = some names := hnames
      rw [hnames']
      show (root.find names).bind FolderEntry.text = _
      rw [FolderEntry.find_write hwrite]
      exact FolderEntry.text_file text

theorem climb_names {names : List String} (h : ∀ n ∈ names, n ≠ "..") (before : List String) :
    climb before names = some (before.reverse ++ names) := by
  induction names generalizing before with
  | nil => rw [climb, List.append_nil]
  | cons n ns ih =>
    obtain ⟨hn, hns⟩ := List.forall_mem_cons.1 h
    rw [climb, if_neg (by simpa using hn), ih hns]
    simp

/-- A path of names under the place of the folder leads along the names. -/
theorem names?_pathTo {names : List String} (h : ∀ n ∈ f.place :: names, IsName n) :
    f.names? (pathTo (f.place :: names)) = some names := by
  have hsame : String.ofList ∘ String.toList = id := by
    funext n
    exact String.ofList_toList
  have hclimb : climb [] names = some names := climb_names (fun n hn => (h n (List.mem_cons_of_mem _ hn)).ne_up) []
  have hidle : (names.map fun s => if s == "" then "." else s) = names := by
    refine (List.map_congr_left fun n hn => ?_).trans (List.map_id _)
    exact if_neg (by simpa using (h n (List.mem_cons_of_mem _ hn)).nonempty)
  rw [names?, splitPath_pathTo h, List.map_map, hsame, List.map_id]
  split
  · rename_i heq
    exact absurd (List.cons.inj heq).1 (h _ (List.mem_cons_self ..)).nonempty
  · rename_i first rest _ heq
    obtain ⟨rfl, rfl⟩ := List.cons.inj heq
    simp only [beq_self_eq_true, if_true, hidle, hclimb]
  · rename_i heq
    cases heq

theorem makeFolder_pathTo {names : List String} (h : ∀ n ∈ f.place :: names, IsName n) :
    f.makeFolder (pathTo (f.place :: names)) = (f.root.makeFolder names).map fun root => { f with root } := by
  have hne : (pathTo (f.place :: names)).isEmpty = false := by
    refine Bool.eq_false_iff.2 fun hempty => ?_
    have hsplit := splitPath_pathTo h
    rw [String.isEmpty_iff.1 hempty] at hsplit
    have hplace : f.place.toList = [] := (List.cons.inj hsplit).1.symm
    exact (h f.place (List.mem_cons_self ..)).toList_ne_nil hplace
  rw [makeFolder, hne, names?_pathTo h]
  rfl

theorem write_pathTo {names : List String} {name : String} (h : ∀ n ∈ f.place :: (names ++ [name]), IsName n)
    (bytes : ByteArray) : f.write (pathTo (f.place :: (names ++ [name]))) bytes =
      (f.root.write bytes (names ++ [name])).map fun root => { f with root } := by
  have hslash : endsInSlash (pathTo (f.place :: (names ++ [name]))) = false :=
    endsInSlash_pathTo (h name (by simp)) (f.place :: names)
  rw [write, hslash, names?_pathTo h]
  rfl

theorem run_change_eq_ok {act : Folder → Except FileError Folder} :
    (change act).run f = (.ok (), f') ↔ act f = .ok f' := by
  cases hact : act f with
  | error e =>
    have hrun : (change act).run f = pure (.error e, f) := by simp [change, hact]
    rw [hrun]
    exact ⟨nofun, nofun⟩
  | ok made =>
    have hrun : (change act).run f = pure (.ok (), made) := by simp [change, hact]
    rw [hrun]
    constructor <;> rintro ⟨⟩ <;> rfl

/-- A folder in memory keeps the files that are written in it. -/
theorem storage_keeps : storage.Keeps := by
  intro path text f f' hwrite
  have hmade : f.write path text.toUTF8 = .ok f' := run_change_eq_ok.1 hwrite
  show (f'.read path, f') = _
  rw [read_write hmade]

end Folder

end Scriptlet
