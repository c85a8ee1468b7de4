import Scriptlet.CommandLine

/-! # The program

Runs the command line on the files of the system. No parser of JavaScript is part of it: the bodies of
fragments have a bare root for their tree, so that only delimiters get token marks. -/

namespace Scriptlet.Program

/-- The cause of a failure of the system, as far as it is one the library knows. -/
def fileError : IO.Error → FileError
  | .noFileOrDirectory .. | .noSuchThing .. => .notFound
  | .alreadyExists .. => .alreadyExists
  | .inappropriateType _ code _ => if code = 21 then .isADirectory else .notADirectory
  | .resourceExhausted .. => .notFound
  | _ => .notText

/-- Runs an action and keeps its failure as a value. -/
def attempt {α : Type} (act : IO α) : IO (Except FileError α) := do
  match ← act.toBaseIO with
  | .ok a => pure (.ok a)
  | .error e => pure (.error (fileError e))

/-- The text of a file, if it is text. -/
def readText (path : String) : IO (Except FileError String) := do
  match ← attempt (IO.FS.readBinFile path) with
  | .error e => pure (.error e)
  | .ok bytes =>
    match String.fromUTF8? bytes with
    | some s => pure (.ok s)
    | none => pure (.error .notText)

/-- Something is at the path: its time of change can be told. -/
def present (path : String) : IO Bool := do
  match ← attempt (IO.FS.Handle.mk path .read) with
  | .ok _ => pure true
  | .error e => pure (e != .notFound && e != .notADirectory)

/-- The files of the system. -/
def storage : Storage IO where
  read := readText
  present := present
  makeFolder path := if path.isEmpty then pure (.ok ()) else attempt (IO.FS.createDirAll path)
  write path text := attempt (IO.FS.writeFile path text)

/-- The settings file of the user. -/
def ownSettings : IO (Option String) := do
  match ← IO.getEnv "XDG_CONFIG_HOME" with
  | some folder => if folder.startsWith "/" then return some (ownSettingsPath folder)
  | none => pure ()
  return (← IO.getEnv "HOME").map fun home => ownSettingsPath (home ++ "/.config")

/-- The tree of a text without any node but its root. -/
def bareTree (text : List Char) : Option SyntaxNode :=
  some (.node ⟨"program", true, 0, Text.byteLength text, none, none⟩ [])

/-- The event in one line. -/
def eventLine (e : Event) : String :=
  let fields := e.fields.map fun (name, v) =>
    match v with
    | .number n => s!" {name}={n}"
    | .text s => s!" {name}={s}"
  e.level.name ++ " " ++ e.message ++ String.join fields

end Scriptlet.Program

open Scriptlet in
def main (args : List String) : IO UInt32 := do
  let outcome ← CommandLine.runArguments Program.storage Program.bareTree (← Program.ownSettings) args
  for e in outcome.events do
    IO.eprintln (Program.eventLine e)
  IO.print outcome.output
  IO.eprint outcome.report
  return outcome.status.toUInt32
