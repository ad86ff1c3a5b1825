/-
RecordSieve.Settings.KeyPath — the places that the keys of a source name.

A key is a path if it consists of words joined with points, each of them
followed by any number of subscripts in brackets, such as
`options.compare` and `options[0]`.  Any other key is a single name,
whatever it holds.
-/
import RecordSieve.Decimal.Digits
import RecordSieve.Settings.Setting
import RecordSieve.Text.Segment
import RecordSieve.Toml.Strings

namespace RecordSieve

/-- A place in a tree of settings: the name of an entry of the whole tree,
and the steps from there. -/
structure KeyPath where
  root : String
  steps : List Setting.Step := []
  deriving DecidableEq, Repr

namespace KeyPath

/-- All steps from the whole tree. -/
def allSteps (path : KeyPath) : List Setting.Step := .name path.root :: path.steps

/-- Reads a subscript up to and with its closing bracket: a signed 64-bit
integer, without a plus sign, and maybe spaces around it. -/
def subscript? (cs : List Char) : Option Int :=
  match (Toml.skipSpace cs).reverse with
  | ']' :: rest =>
    let figures := (Toml.skipSpace rest).reverse
    if figures.head? == some '+' then none else Decimal.int64OfText? figures
  | _ => none

/-- Reads a word and its subscripts. -/
def segment? (cs : List Char) : Option (String × List Setting.Step) :=
  match Text.splitWhere (· == '[') cs with
  | [] => none
  | word :: subscripts =>
    if !word.isEmpty && word.all Toml.isKeyChar then
      (subscripts.mapM subscript?).map fun subscripts => (String.ofList word, subscripts.map .item)
    else none

/-- Reads a key that is a path. -/
def ofText? (key : String) : Option KeyPath := do
  let (root, items) :: segments ← (Text.splitWhere (· == '.') key.toList).mapM segment? | none
  return ⟨root, items ++ segments.flatMap fun (word, items) => .name word :: items⟩

/-- The place that a key names. -/
def ofKey (key : String) : KeyPath := (ofText? key).getD ⟨key, []⟩

example : ofKey "rules[-1].name" = ⟨"rules", [.item (-1), .name "name"]⟩ := by decide +kernel

example : ofKey "rules[]" = ⟨"rules[]", []⟩ := by decide +kernel

end KeyPath

end RecordSieve
