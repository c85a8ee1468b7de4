import Scriptlet.Settings.File
import Scriptlet.Event

/-! # Storage

What the program asks of a file system, and what it keeps there: documents and settings. The program
is written over any `Storage`, so that it runs on files and on a folder in memory alike. -/

namespace Scriptlet

/-- Access to files by path. -/
structure Storage (m : Type → Type) where
  /-- The text of a file. -/
  read : String → m (Except FileError String)
  /-- There is a file or folder at the path. -/
  present : String → m Bool
  /-- Makes the folder at the path and all around it that are not there yet. -/
  makeFolder : String → m (Except FileError Unit)
  /-- Makes the file at the path or replaces its text. -/
  write : String → String → m (Except FileError Unit)

/-- The path of the settings file of a user whose settings of all programs are in the folder. -/
def ownSettingsPath (folder : String) : String :=
  folder ++ "/templight/config.toml"

/-- The pieces of a text between slashes. -/
def splitPath : List Char → List (List Char)
  | [] => [[]]
  | c :: cs =>
    if c == '/' then [] :: splitPath cs
    else
      match splitPath cs with
      | p :: ps => (c :: p) :: ps
      | [] => [[c]]

/-- The text with the pieces between slashes. -/
def joinPath : List (List Char) → List Char
  | [] => []
  | [p] => p
  | p :: ps => p ++ '/' :: joinPath ps

/-- A piece of a path that leads nowhere. -/
def isIdle (piece : List Char) : Bool := piece.isEmpty || piece == ['.']

/-- The path of the folder around the place that the path leads to, whose end may be idle; empty if the
path is only a name, or none at all. -/
def parentPath (path : String) : String :=
  match splitPath path.toList with
  | [] => ""
  | first :: rest =>
    match rest.reverse.dropWhile isIdle with
    | [] => ""
    | _ :: before =>
      match (before.dropWhile isIdle).reverse with
      | [] => if first.isEmpty then "/" else String.ofList first
      | around => String.ofList (joinPath (first :: around))

/-- The path ends in a slash, as only that of a folder may. -/
def endsInSlash (path : String) : Bool := path.toList.getLast? == some '/'

variable {m : Type → Type} [Monad m]

/-- The document in a file. -/
def Document.load (s : Storage m) (path : String) : m (Except DocumentError Document) := do
  match ← s.read path with
  | .ok text => pure (.ok (.ofString text))
  | .error e => pure (.error (.file e))

namespace Settings

/-- The settings in a file. -/
def loadFrom (s : Storage m) (path : String) : m (Except SettingsError Settings) := do
  match ← s.read path with
  | .ok text => pure (ofText text.toList)
  | .error e => pure (.error (.file e))

/-- The settings in the file of the user, if there is one. -/
def loadOwn (s : Storage m) (own : Option String) : m (Except SettingsError Settings) :=
  match own with
  | none => pure (.error .noFolder)
  | some path => do if ← s.present path then loadFrom s path else pure (.ok {})

/-- The settings in the file of the user, or the defaults if there is none or it is no use. -/
def load (s : Storage m) (own : Option String) : m (Settings × List Event) := do
  match ← loadOwn s own with
  | .ok settings => pure (settings, [])
  | .error e => pure ({}, [.settingsIgnored e])

/-- Writes the settings to a file, making the folders around it. -/
def saveTo (s : Storage m) (path : String) (settings : Settings) : m (Except SettingsError Unit) := do
  match ← s.makeFolder (parentPath path) with
  | .error e => pure (.error (.file e))
  | .ok () =>
    match ← s.write path (String.ofList settings.toText) with
    | .error e => pure (.error (.file e))
    | .ok () => pure (.ok ())

end Settings

end Scriptlet
