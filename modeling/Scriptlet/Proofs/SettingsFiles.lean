import Scriptlet.Proofs.Folders
import Scriptlet.Proofs.SettingsTables

/-!
# Settings files

Settings that have been saved are loaded as they were, in whatever storage keeps what is written
(`Settings.loadFrom_saveTo`). In a folder in memory they can be saved wherever nothing is in the way of the file
(`Settings.exists_saveTo_iff`).
-/

namespace Scriptlet.Settings
variable {σ : Type}

theorem run_bind {α β : Type} (act : StateM σ α) (next : α → StateM σ β) (st : σ) :
    (act >>= next).run st = (next (act.run st).1).run (act.run st).2 := rfl

/-- Saving makes the folder around the file and then writes the text of all settings. -/
theorem saveTo_eq_ok {storage : Storage (StateM σ)} {s : Settings} {path : String} {st st' : σ} :
    (saveTo storage path s).run st = (.ok (), st') ↔
      ∃ st₁, (storage.makeFolder (parentPath path)).run st = (.ok (), st₁) ∧
        (storage.write path (String.ofList s.toText)).run st₁ = (.ok (), st') := by
  rw [saveTo, run_bind]
  obtain ⟨made, st₁⟩ := (storage.makeFolder (parentPath path)).run st
  cases made with
  | error e =>
    constructor
    · rintro ⟨⟩
    · rintro ⟨_, ⟨⟩, -⟩
  | ok =>
    dsimp only
    rw [run_bind]
    obtain ⟨⟨written, st₂⟩, hwrite⟩ : ∃ r, (storage.write path (String.ofList s.toText)).run st₁ = r := ⟨_, rfl⟩
    rw [hwrite]
    cases written with
    | error e =>
      constructor
      · rintro ⟨⟩
      · rintro ⟨_, ⟨⟩, hwritten⟩
        cases hwrite.symm.trans hwritten
    | ok =>
      constructor
      · rintro ⟨⟩
        exact ⟨st₁, rfl, hwrite⟩
      · rintro ⟨_, ⟨⟩, hwritten⟩
        cases hwrite.symm.trans hwritten
        rfl

/-- Settings can be saved in a folder in memory just if nothing is in the way of the file. -/
theorem exists_saveTo_iff (s : Settings) (f : Folder) {dirs : List String} {name : String}
    (h : ∀ n ∈ f.place :: (dirs ++ [name]), IsName n) :
    (∃ f', (saveTo Folder.storage (pathTo (f.place :: (dirs ++ [name]))) s).run f = (.ok (), f')) ↔
      f.root.Room dirs name := by
  have hdirs : ∀ n ∈ f.place :: dirs, IsName n := fun n hn => h n (List.mem_append_left [name] hn)
  have hmake : ∀ f₁, (Folder.storage.makeFolder (pathTo (f.place :: dirs))).run f = (.ok (), f₁) ↔
      ∃ made, f.root.makeFolder dirs = .ok made ∧ { f with root := made } = f₁ := by
    intro f₁
    refine Folder.run_change_eq_ok.trans ?_
    rw [Folder.makeFolder_pathTo hdirs]
    cases f.root.makeFolder dirs <;> simp [Except.map]
  have hwrite : ∀ made, (∃ f', (Folder.storage.write (pathTo (f.place :: (dirs ++ [name])))
      (String.ofList s.toText)).run { f with root := made } = (.ok (), f')) ↔
      ∃ root, made.write (String.ofList s.toText).toUTF8 (dirs ++ [name]) = .ok root := by
    intro made
    have hwritten : Folder.write { f with root := made } (pathTo (f.place :: (dirs ++ [name])))
        (String.ofList s.toText).toUTF8 = _ := Folder.write_pathTo (f := { f with root := made }) h _
    refine (exists_congr fun f' => Folder.run_change_eq_ok).trans ?_
    rw [hwritten]
    cases made.write (String.ofList s.toText).toUTF8 (dirs ++ [name]) <;> simp [Except.map]
  rw [← FolderEntry.makeFolder_write_iff (String.ofList s.toText).toUTF8
    (fun d hd => (hdirs d (List.mem_cons_of_mem _ hd)).ne_here) (h name (by simp)).ne_here]
  simp only [saveTo_eq_ok, parentPath_pathTo h, hmake, ← hwrite]
  constructor
  · rintro ⟨f', _, ⟨made, hmade, rfl⟩, hf'⟩
    exact ⟨made, hmade, f', hf'⟩
  · rintro ⟨made, hmade, f', hf'⟩
    exact ⟨f', _, ⟨made, hmade, rfl⟩, hf'⟩

/-- Settings come back from a file as they were written to it: the text of all settings is read as these
settings, and loading from a path gives what has been saved there, in any storage that keeps what is written. A
folder in memory is one, where the settings can be saved at a path of names just if nothing is in the way. -/
theorem loadFrom_saveTo (s : Settings) : ofText s.toText = .ok s ∧
    (∀ {σ : Type} (storage : Storage (StateM σ)), storage.Keeps → ∀ (path : String) (st st' : σ),
      (saveTo storage path s).run st = (.ok (), st') → (loadFrom storage path).run st' = (.ok s, st')) ∧
    Folder.storage.Keeps ∧
    ∀ (f : Folder) (dirs : List String) (name : String), (∀ n ∈ f.place :: (dirs ++ [name]), IsName n) →
      ((∃ f', (saveTo Folder.storage (pathTo (f.place :: (dirs ++ [name]))) s).run f = (.ok (), f')) ↔
        f.root.Room dirs name) := by
  have htext := ofText_toText s
  refine ⟨htext, fun storage hkeeps path st st' hsave => ?_, Folder.storage_keeps, fun f _ _ => exists_saveTo_iff s f⟩
  obtain ⟨st₁, -, hwrite⟩ := saveTo_eq_ok.1 hsave
  have hread := hkeeps path _ st₁ st' hwrite
  rw [loadFrom, run_bind, hread]
  show (ofText (String.ofList s.toText).toList, st') = _
  rw [String.toList_ofList, htext]

/-- Settings with quotes in rows, backslashes, line breaks, a control character and keys that need quotes. -/
def awkward : Settings where
  delimiters := ⟨"\"\"\"\\'''\r\n", "\n''"⟩
  decorations := ⟨"'\\'", "\"\"", ⟨[("", "'\"'"), ("é \n", "")], by decide⟩⟩
  highlight := ⟨"\t\x01", true⟩

theorem loadFrom_saveTo_awkward : ofText awkward.toText = .ok awkward ∧
    ∃ f', (saveTo Folder.storage "home/notes/config.toml" awkward).run (.empty "home") = (.ok (), f') ∧
      (loadFrom Folder.storage "home/notes/config.toml").run f' = (.ok awkward, f') := by
  obtain ⟨htext, hload, hkeeps, hsaves⟩ := loadFrom_saveTo awkward
  have hnames : ∀ n ∈ (Folder.empty "home").place :: (["notes"] ++ ["config.toml"]), IsName n := by
    intro n hn
    simp only [Folder.empty, List.singleton_append, List.mem_cons, List.not_mem_nil, or_false] at hn
    rcases hn with rfl | rfl | rfl <;> exact ⟨by decide, by decide, by decide, by decide⟩
  have hroom : (Folder.empty "home").root.Room ["notes"] "config.toml" :=
    FolderEntry.room_empty (by decide) (by decide)
  obtain ⟨f', hsave⟩ := (hsaves _ _ _ hnames).2 hroom
  exact ⟨htext, f', hsave, hload _ hkeeps _ _ _ hsave⟩

end Scriptlet.Settings
