/-
RecordSieve.Settings.Layer — layers of settings and the sources they are
read from.

A layer is a list of assignments of settings to places; layers are laid
over each other in order, so a later one wins leaf by leaf.  A source
names the places of its settings by keys, each key once.  The keys of one
source are applied in an order that nothing promises (`KeyOrder`), and it
matters where they contradict each other, as `options` and
`options.locale` do.

Environment variables whose names begin with `JSON_RULES_`, in any case,
are a source: the rest of the name is the key, in lower case, with two
underscores for a point.  Their values are typed by their looks.
-/
import RecordSieve.Decimal.Literal
import RecordSieve.Settings.KeyPath
import RecordSieve.Text.LetterCase

namespace RecordSieve

/-- The assignment of a setting to a place. -/
structure Assignment where
  path : KeyPath
  value : Setting

/-- Assignments from one source, in order. -/
abbrev Layer := List Assignment

namespace Setting

/-- The settings with one assignment made. -/
def assign (empties : EmptyTables) (s : Setting) (a : Assignment) : Setting :=
  s.set empties a.value a.path.allSteps

/-- The settings with a layer laid over them. -/
def under (empties : EmptyTables) (s : Setting) (layer : Layer) : Setting :=
  layer.foldl (assign empties) s

/-- Layers laid over each other, the first one lowest. -/
def ofLayers (empties : EmptyTables) (layers : List Layer) : Setting :=
  layers.foldl (under empties) empty

end Setting

/-- An order in which the keys of a source are applied. -/
structure KeyOrder where
  arrange : List (String × Setting) → List (String × Setting)
  perm : ∀ entries, (arrange entries).Perm entries

/-- The order in which the source has its keys. -/
def KeyOrder.asGiven : KeyOrder := ⟨id, fun _ => .rfl⟩

namespace Layer

/-- The layer of a source's keys and settings; of several settings for one
key the last counts. -/
def ofEntries (order : KeyOrder) (entries : List (String × Setting)) : Layer :=
  let distinct := entries.foldl (fun acc (key, value) => Setting.put key value acc) []
  (order.arrange distinct).map fun (key, value) => ⟨.ofKey key, value⟩

/-- How the names of variables with settings begin, in lower case. -/
def variablePrefix : List Char := "json_rules_".toList

/-- Two underscores, from left to right, replaced by a point. -/
def pointed : List Char → List Char
  | '_' :: '_' :: cs => '.' :: pointed cs
  | c :: cs => c :: pointed cs
  | [] => []

/-- The key of a variable with a setting. -/
def keyOfVariable? (name : String) : Option String :=
  let small := Text.lowercaseAll name.toList
  if variablePrefix.isPrefixOf small then
    some (String.ofList (pointed (small.drop variablePrefix.length)))
  else none

/-- The setting of a variable's value: a truth value, a number, or else text. -/
def settingOfValue (value : String) : Setting :=
  if Text.sameName value "true" then .boolean true
  else if Text.sameName value "false" then .boolean false
  else
    match Decimal.int64OfText? value.toList with
    | some i => .integer i
    | none =>
      match Decimal.readLiteral? value.toList with
      | some x => .decimal x
      | none => .text value

/-- The keys and settings of environment variables. -/
def entriesOfVariables (envVars : List (String × String)) : List (String × Setting) :=
  envVars.filterMap fun (name, value) =>
    (keyOfVariable? name).map fun key => (key, settingOfValue value)

end Layer

end RecordSieve
