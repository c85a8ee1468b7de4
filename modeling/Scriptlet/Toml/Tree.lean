import Scriptlet.Toml.Value

/-! # Tables under construction

The tables of a document are built by its lines one after the other. How a table came about decides
what may still be added to it: a table can be opened by a header once, and only tables made by dotted
keys take more dotted keys. -/

namespace Scriptlet.Toml

/-- How a table came about. -/
inductive Origin where
  /-- By a header of its own. -/
  | header
  /-- By the header of a table inside it. -/
  | headerInside
  /-- By a dotted key. -/
  | dotted
  deriving DecidableEq, Repr

/-- What a key stands for so far. -/
inductive Node where
  | value (v : Value)
  | table (origin : Origin) (entries : List (String × Node))
  /-- The tables opened by double headers of the same name. -/
  | tables (items : List (List (String × Node)))

/-- What the keys of a table stand for, in the order they were first used. -/
abbrev Entries := List (String × Node)

namespace Entries

/-- What the key stands for. -/
def node? (es : Entries) (key : String) : Option Node :=
  List.lookup key es

/-- Makes the key stand for something else, or adds it. -/
def set (es : Entries) (key : String) (n : Node) : Entries :=
  if es.any fun e => e.1 == key then es.map fun e => if e.1 == key then (key, n) else e
  else es ++ [(key, n)]

/-- Changes the last table of a double header. -/
def changeLast (f : Entries → Option Entries) : List Entries → Option (List Entries)
  | [] => none
  | [es] => (f es).map ([·])
  | es :: rest => (changeLast f rest).map (es :: ·)

/-- Adds a value under a dotted key. `allowed` says that a value may be added right here. -/
def put (allowed : Bool) (v : Value) (key : String) : List String → Entries → Option Entries
  | [], es => if allowed && (es.node? key).isNone then some (es.set key (.value v)) else none
  | k :: ks, es =>
    match es.node? k with
    | none => (put true v key ks []).map fun inner => es.set k (.table .dotted inner)
    | some (.value _) => none
    | some (.table .header _) => none
    | some (.table origin inner) =>
      (put (origin == .dotted) v key ks inner).map fun inner => es.set k (.table origin inner)
    | some (.tables items) =>
      (changeLast (put false v key ks) items).map fun items => es.set k (.tables items)

/-- Changes the table that a header names, given the tables around it. Tables around it that are not
there yet are made. -/
def descend (f : Entries → Option Entries) : List String → Entries → Option Entries
  | [], es => f es
  | k :: ks, es =>
    match es.node? k with
    | none => (descend f ks []).map fun inner => es.set k (.table .headerInside inner)
    | some (.value _) => none
    | some (.table origin inner) => (descend f ks inner).map fun inner => es.set k (.table origin inner)
    | some (.tables items) =>
      (changeLast (descend f ks) items).map fun items => es.set k (.tables items)

/-- Opens the table of a header, whose last key is given apart. -/
def openTable (around : List String) (key : String) : Entries → Option Entries :=
  descend (fun es =>
    match es.node? key with
    | none => some (es.set key (.table .header []))
    | some (.table .headerInside inner) => some (es.set key (.table .header inner))
    | some _ => none) around

/-- Opens one more table of a double header, whose last key is given apart. -/
def openItem (around : List String) (key : String) : Entries → Option Entries :=
  descend (fun es =>
    match es.node? key with
    | none => some (es.set key (.tables [[]]))
    | some (.tables items) => some (es.set key (.tables (items ++ [[]])))
    | some _ => none) around

end Entries

mutual

/-- The value of what a key stands for. -/
def Node.toValue : Node → Value
  | .value v => v
  | .table _ entries => .table (entriesToValues entries)
  | .tables items => .array (itemsToValues items)

/-- The values of the keys of a table. -/
def entriesToValues : List (String × Node) → List (String × Value)
  | [] => []
  | (k, n) :: rest => (k, n.toValue) :: entriesToValues rest

/-- The values of the tables of a double header. -/
def itemsToValues : List (List (String × Node)) → List Value
  | [] => []
  | es :: rest => .table (entriesToValues es) :: itemsToValues rest

end

end Scriptlet.Toml
