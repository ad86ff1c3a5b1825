/-
RecordSieve.Toml.Tree — the tables of a TOML document while they are
being built.

Nothing may be defined twice, and how a table came about decides what
may still be added to it: a table implied by a longer header can get its
own header later, and only a table made by dotted keys can get further
dotted keys.  Headers may add tables inside any table, and the last
table of an array stands for the array.
-/
import RecordSieve.Settings.Setting

namespace RecordSieve.Toml

/-- How a table came about. -/
inductive Origin where
  /-- By a header that names a table inside it. -/
  | implied
  /-- By its own header. -/
  | header
  /-- By keys joined with points. -/
  | dotted
  deriving DecidableEq, Repr

/-- What stands under a name. -/
inductive Node where
  /-- A value, to which nothing can be added. -/
  | value (value : Setting)
  | table (origin : Origin) (entries : List (String × Node))
  /-- An array of tables: those finished, and the last one. -/
  | tables (earlier : List (List (String × Node))) (last : List (String × Node))

/-- The names of a table. -/
abbrev Names := List (String × Node)

namespace Names

/-- Changes what stands under a name, or fails. -/
def change? (key : String) (f : Option Node → Option Node) : Names → Option Names
  | [] => (f none).map fun node => [(key, node)]
  | (k, node) :: rest =>
    if k == key then (f (some node)).map fun node => (k, node) :: rest
    else (change? key f rest).map fun rest => (k, node) :: rest

/-- Changes a table in place; a header that passes through a missing
table implies it. -/
def inTable? (f : Names → Option Names) : Option Node → Option Node
  | none => (f []).map (Node.table .implied)
  | some (.table origin names) => (f names).map (Node.table origin)
  | some (.tables earlier last) => (f last).map (Node.tables earlier)
  | some (.value _) => none

/-- Changes the table that a header's path leads to. -/
def within? (f : Names → Option Names) : List String → Names → Option Names
  | [], names => f names
  | key :: path, names => names.change? key (inTable? (within? f path))

/-- Defines a table by its own header. -/
def headTable? : Option Node → Option Node
  | none => some (.table .header [])
  | some (.table .implied names) => some (.table .header names)
  | some _ => none

/-- Begins the next table of an array. -/
def nextTable? : Option Node → Option Node
  | none => some (.tables [] [])
  | some (.tables earlier last) => some (.tables (earlier ++ [last]) [])
  | some _ => none

/-- Defines the last name of a path inside the table that the others lead to. -/
def define? (f : Option Node → Option Node) (path : List String) (names : Names) : Option Names := do
  names.within? (change? (← path.getLast?) f) path.dropLast

/-- Sets a value under keys joined with points. -/
def assign? (value : Setting) : List String → Names → Option Names
  | [], _ => none
  | [key], names => names.change? key fun
    | none => some (.value value)
    | some _ => none
  | key :: path, names => names.change? key fun
    | none => (assign? value path []).map (Node.table .dotted)
    | some (.table .dotted inner) => (assign? value path inner).map (Node.table .dotted)
    | some _ => none

end Names

namespace Node

mutual

/-- The setting of a node. -/
def setting : Node → Setting
  | value v => v
  | table _ names => .table (settings names)
  | tables earlier last => .list (listed earlier ++ [.table (settings last)])

/-- The settings of named nodes. -/
def settings : List (String × Node) → List (String × Setting)
  | [] => []
  | (key, node) :: rest => (key, setting node) :: settings rest

/-- The finished tables of an array. -/
def listed : List (List (String × Node)) → List Setting
  | [] => []
  | names :: rest => .table (settings names) :: listed rest

end

end Node

end RecordSieve.Toml
