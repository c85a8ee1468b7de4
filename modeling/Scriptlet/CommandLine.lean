import Scriptlet.Json
import Scriptlet.Storage
import Scriptlet.View

/-! # The command line

`templight [OPTIONS] [FILE]` prints the decorations of a document as JSON. The arguments are read
from left to right, and the first mistake ends the run. -/

namespace Scriptlet

namespace CommandLine

/-- The program and its version. -/
def version : String := "templight 0.1.0"

/-- What the program is and how it is called. -/
def help : String :=
  "\n".intercalate [
    "Templight - highlights template script fragments",
    "",
    "Usage: templight [OPTIONS] [FILE]",
    "",
    "Arguments:",
    "  [FILE]  Document to decorate",
    "",
    "Options:",
    "  -c, --config <PATH>  Config file to use instead of the default location",
    "      --init-config    Save the default config and exit",
    "      --compact        Print compact JSON",
    "  -v, --verbose...     Verbose logging",
    "  -h, --help           Print help",
    "  -V, --version        Print version"]

/-- What the arguments ask for. -/
structure Request where
  file : Option String := none
  config : Option String := none
  initConfig : Bool := false
  compact : Bool := false
  /-- How often more events were asked for. -/
  verbosity : Nat := 0
  deriving DecidableEq, Repr

/-- How reading the arguments ends. -/
inductive Reading where
  | run (r : Request)
  /-- The program is to say this and nothing else. -/
  | print (text : String)
  /-- The arguments make no sense. -/
  | misuse
  deriving DecidableEq, Repr

/-- What a switch asks for. -/
inductive Switch where
  | initConfig
  | compact
  | verbose
  | help
  | version
  deriving DecidableEq, Repr

/-- The switch of a long option. -/
def longSwitch? (name : String) : Option Switch :=
  [("init-config", Switch.initConfig), ("compact", .compact), ("verbose", .verbose), ("help", .help),
    ("version", .version)].lookup name

/-- The switch of a short option. -/
def shortSwitch? (c : Char) : Option Switch :=
  [('v', Switch.verbose), ('h', .help), ('V', .version)].lookup c

/-- The request with the switch on. Only the verbose switch may be given again. -/
def Request.turnOn (r : Request) : Switch → Except Reading Request
  | .initConfig => if r.initConfig then .error .misuse else .ok { r with initConfig := true }
  | .compact => if r.compact then .error .misuse else .ok { r with compact := true }
  | .verbose => .ok { r with verbosity := r.verbosity + 1 }
  | .help => .error (.print (CommandLine.help ++ "\n"))
  | .version => .error (.print (CommandLine.version ++ "\n"))

/-- The request with a settings file, which may be given once and has a name. -/
def Request.setConfig (r : Request) (path : String) : Except Reading Request :=
  if path.isEmpty || r.config.isSome then .error .misuse else .ok { r with config := some path }

/-- The request with a document, which may be given once and has a name. -/
def Request.setFile (r : Request) (path : String) : Except Reading Request :=
  if path.isEmpty || r.file.isSome then .error .misuse else .ok { r with file := some path }

/-- A request, and whether the next argument is the path of the settings file. -/
abbrev Pending := Request × Bool

/-- Reads the letters of a short option. Behind `c` the rest of the letters is a path. -/
def readShort (r : Request) : List Char → Except Reading Pending
  | [] => .ok (r, false)
  | 'c' :: [] => .ok (r, true)
  | 'c' :: '=' :: path => (r.setConfig (String.ofList path)).map (·, false)
  | 'c' :: path => (r.setConfig (String.ofList path)).map (·, false)
  | c :: cs =>
    match shortSwitch? c with
    | some s => (r.turnOn s).bind fun r => readShort r cs
    | none => .error .misuse

/-- Reads a long option, with what follows an equals sign if there is one. -/
def readLong (r : Request) (cs : List Char) : Except Reading Pending :=
  let name := String.ofList (cs.takeWhile (· != '='))
  match cs.dropWhile (· != '=') with
  | [] =>
    if name == "config" then .ok (r, true)
    else
      match longSwitch? name with
      | some s => (r.turnOn s).map (·, false)
      | none => .error .misuse
  | _ :: value =>
    if name == "config" then (r.setConfig (String.ofList value)).map (·, false) else .error .misuse

/-- What is missing when the arguments have ended. -/
def Request.finish (r : Request) : Reading :=
  if r.file.isNone && !r.initConfig then .misuse else .run r

/-- Reads the arguments behind a double minus: all are documents. -/
def readFiles (r : Request) : List String → Reading
  | [] => r.finish
  | a :: as =>
    match r.setFile a with
    | .ok r => readFiles r as
    | .error e => e

/-- Reads the arguments. `wanted` says that the next is the path of the settings file. -/
def readFrom (r : Request) (wanted : Bool) : List String → Reading
  | [] => if wanted then .misuse else r.finish
  | a :: as =>
    let next (result : Except Reading Pending) : Reading :=
      match result with
      | .ok (r, wanted) => readFrom r wanted as
      | .error e => e
    match a.toList with
    | ['-', '-'] => if wanted then .misuse else readFiles r as
    | '-' :: '-' :: cs => if wanted then .misuse else next (readLong r cs)
    | '-' :: c :: cs => if wanted then .misuse else next (readShort r (c :: cs))
    | _ => next ((if wanted then r.setConfig a else r.setFile a).map (·, false))

/-- Reads the arguments of the program. -/
def read (args : List String) : Reading :=
  readFrom {} false args

/-! ### Running -/

/-- What a run gives. -/
structure Outcome where
  status : Nat
  output : String := ""
  /-- What is said about a failure. -/
  report : String := ""
  /-- The events to be shown. -/
  events : List Event := []

/-- An error and perhaps its cause, in words. -/
def report (message : String) (cause : Option String) : String :=
  "Error: " ++ message ++
    match cause with
    | none => ""
    | some c => "\n\nCaused by:\n    " ++ String.ofList (c.toList.flatMap fun x =>
        if x == '\n' then "\n    ".toList else [x])

/-- A run that failed. -/
def failed (message : String) (cause : Option String := none) : Outcome :=
  { status := 1, report := report message cause ++ "\n" }

/-- What lies behind an error of settings. -/
def settingsCause : SettingsError → Option String
  | .file e => some e.message
  | .noFolder | .malformed => none

/-- What lies behind an error of setting up a view. A pattern that is none has no cause. -/
def viewCause : ViewError → Option String
  | .setup (.invalidPattern _ none) => none
  | .setup e => some e.message

/-- The events that are shown at a verbosity. -/
def shown (verbosity : Nat) (events : List Event) : List Event :=
  events.filter fun e =>
    match e.level with
    | .warn => true
    | .info => 1 ≤ verbosity
    | .debug => 2 ≤ verbosity
    | .trace => 3 ≤ verbosity

variable {m : Type → Type} [Monad m]

/-- Writes the default settings to the file of the user. -/
def initConfig (s : Storage m) (own : Option String) : m Outcome :=
  match own with
  | none => pure (failed SettingsError.noFolder.message)
  | some path => do
    match ← Settings.saveTo s path {} with
    | .ok () => pure { status := 0, output := path ++ "\n" }
    | .error e => pure (failed e.message (settingsCause e))

/-- Prints the decorations of a document under the settings. -/
def decorateFile (s : Storage m) (parser : List Char → Option SyntaxNode) (r : Request)
    (settings : Settings) (events : List Event) (path : String) : m Outcome := do
  match ← Document.load s path with
  | .error e => pure (failed ("Cannot open " ++ path ++ ": " ++ e.message))
  | .ok doc =>
    match View.ofSettings parser settings doc with
    | .error e => pure (failed e.message (viewCause e))
    | .ok (v, more) =>
      let json := v.decorations.toJson
      let text := if r.compact then json.compact else json.pretty 0
      pure {
        status := 0, output := String.ofList text ++ "\n",
        events := shown r.verbosity (events ++ more) }

/-- Does what is requested. `own` is the settings file of the user. -/
def run (s : Storage m) (parser : List Char → Option SyntaxNode) (own : Option String)
    (r : Request) : m Outcome := do
  if r.initConfig then initConfig s own
  else
    match r.file with
    | none => pure (failed "No document given")
    | some file =>
      match r.config with
      | none =>
        let (settings, events) ← Settings.load s own
        decorateFile s parser r settings events file
      | some path =>
        match ← Settings.loadFrom s path with
        | .ok settings => decorateFile s parser r settings [] file
        | .error e => pure (failed ("Cannot load " ++ path ++ ": " ++ e.message))

/-- The whole program: reads the arguments and does what they ask for. -/
def runArguments (s : Storage m) (parser : List Char → Option SyntaxNode) (own : Option String)
    (args : List String) : m Outcome :=
  match read args with
  | .run r => run s parser own r
  | .print text => pure { status := 0, output := text }
  | .misuse => pure { status := 2 }

end CommandLine

end Scriptlet
