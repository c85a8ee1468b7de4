import Scriptlet.Storage

/-! # Folders in memory

A tree of folders and files, with the rules of a file system for paths: a step into something that is
no folder fails, a folder is not a file, and a file is not replaced by a folder. -/

namespace Scriptlet

/-- A file or a folder. -/
inductive FolderEntry where
  | file (bytes : ByteArray)
  | folder (entries : List (String × FolderEntry))

namespace FolderEntry

/-- The entry of that name. -/
def lookup (entries : List (String × FolderEntry)) (name : String) : Option FolderEntry :=
  List.lookup name entries

/-- The entries with one of them set. -/
def set (entries : List (String × FolderEntry)) (name : String) (e : FolderEntry) :
    List (String × FolderEntry) :=
  if (lookup entries name).isSome then
    entries.map fun x => if x.1 == name then (name, e) else x
  else entries ++ [(name, e)]

/-- What is found at a path, one name after the other. -/
def find : List String → FolderEntry → Except FileError FolderEntry
  | [], e => .ok e
  | _ :: _, file _ => .error .notADirectory
  | name :: names, folder entries =>
    if name == "." then find names (folder entries)
    else
      match lookup entries name with
      | some e => find names e
      | none => .error .notFound

/-- The tree with a folder made at the path, and those around it that are not there. -/
def makeFolder : List String → FolderEntry → Except FileError FolderEntry
  | [], folder entries => .ok (folder entries)
  | [], file _ => .error .alreadyExists
  | _ :: _, file _ => .error .notADirectory
  | name :: names, folder entries =>
    if name == "." then makeFolder names (folder entries)
    else
      (makeFolder names ((lookup entries name).getD (folder []))).map fun e =>
        folder (set entries name e)

/-- The tree with a file written at the path. -/
def write (bytes : ByteArray) : List String → FolderEntry → Except FileError FolderEntry
  | [], folder _ => .error .isADirectory
  | [], file _ => .ok (file bytes)
  | _ :: _, file _ => .error .notADirectory
  | name :: names, folder entries =>
    if name == "." then write bytes names (folder entries)
    else
      match lookup entries name, names with
      | some e, names => (write bytes names e).map fun e => folder (set entries name e)
      | none, [] => .ok (folder (set entries name (file bytes)))
      | none, _ :: _ => .error .notFound

/-- Why no file can be written where the names lead, when the path to it ends in a slash. -/
def slashRefusal (names : List String) (e : FolderEntry) : FileError :=
  match find names.dropLast e with
  | .ok (folder _) => .isADirectory
  | .ok (file _) => .notADirectory
  | .error e => e

/-- The text of a file. -/
def text : FolderEntry → Except FileError String
  | folder _ => .error .isADirectory
  | file bytes =>
    match String.fromUTF8? bytes with
    | some s => .ok s
    | none => .error .notText

end FolderEntry

/-- A folder in memory and the path by which it is known from outside. -/
structure Folder where
  place : String
  root : FolderEntry

namespace Folder

/-- The folder without anything in it. -/
def empty (place : String) : Folder := ⟨place, .folder []⟩

/-- Takes steps to the folder above against the steps before them, given last first; `none` if they
lead out of the folder. -/
def climb (before : List String) : List String → Option (List String)
  | [] => some before.reverse
  | name :: names =>
    if name == ".." then
      match before.dropWhile (· == ".") with
      | [] => none
      | _ :: before => climb before names
    else climb (name :: before) names

/-- The names on the way to the path; `none` if it leads out of the folder or is empty. -/
def names? (f : Folder) (path : String) : Option (List String) :=
  match (splitPath path.toList).map String.ofList with
  | [""] => none
  | first :: rest =>
    let name (s : String) : String := if s == "" then "." else s
    if first == f.place then climb [] (rest.map name)
    else if first == "" then none
    else climb [] ((first :: rest).map name)
  | [] => none

/-- The text of the file at the path. -/
def read (f : Folder) (path : String) : Except FileError String :=
  match f.names? path with
  | none => .error .notFound
  | some names => (f.root.find names).bind FolderEntry.text

/-- There is something at the path. -/
def present (f : Folder) (path : String) : Bool :=
  match f.names? path with
  | none => false
  | some names => (f.root.find names) matches .ok _

/-- The folder with another made in it. -/
def makeFolder (f : Folder) (path : String) : Except FileError Folder :=
  if path.isEmpty then .ok f
  else
    match f.names? path with
    | none => .error .notFound
    | some names => (f.root.makeFolder names).map fun root => { f with root }

/-- The folder with a file written in it. -/
def write (f : Folder) (path : String) (bytes : ByteArray) : Except FileError Folder :=
  if endsInSlash path then
    match f.names? (String.ofList (path.toList.reverse.dropWhile (· == '/')).reverse) with
    | none => .error .notFound
    | some names => .error (f.root.slashRefusal names)
  else
    match f.names? path with
    | none => .error .notFound
    | some names => (f.root.write bytes names).map fun root => { f with root }

/-- Does something to the folder that may fail and then changes nothing. -/
def change (act : Folder → Except FileError Folder) : StateM Folder (Except FileError Unit) := do
  match act (← get) with
  | .ok f => set f; pure (.ok ())
  | .error e => pure (.error e)

/-- A folder in memory as storage. -/
def storage : Storage (StateM Folder) where
  read path := return (← get).read path
  present path := return (← get).present path
  makeFolder path := change fun f => f.makeFolder path
  write path text := change fun f => f.write path text.toUTF8

end Folder

end Scriptlet
