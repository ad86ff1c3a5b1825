/-
RecordSieve.RecordText — texts that hold records.

Records are JSON objects.  A text that begins with a bracket, blanks
aside, is one JSON array of records; any other text holds a JSON value
on each line that is not blank.  Values that are not objects are passed
over.  Records are always written one to a line, so that what is written
can be read again.
-/
import RecordSieve.Json.Reader
import RecordSieve.Json.Writer
import RecordSieve.Text.Blank
import RecordSieve.Text.Line

namespace RecordSieve

/-- Why a text holds no records. -/
inductive RecordError where
  /-- The text begins like an array and is none. -/
  | notArray
  /-- The line of this number, counted from one, is not JSON. -/
  | notJson (line : Nat)
  deriving DecidableEq, Repr

/-- The wording of the error. -/
def RecordError.message : RecordError → String
  | notArray => "数据不是有效的 JSON 数组"
  | notJson line => let number := Decimal.natText line; s!"第 {number} 行不是有效的 JSON"

namespace RecordText

/-- The items of a text that is one array. -/
def itemsOf (text : List Char) : Except RecordError (List Json) :=
  match Json.readToDepth? Json.maxDepth text with
  | some (.array items) => .ok items
  | _ => .error .notArray

/-- The values on the lines that are not blank; the first line has the
given number. -/
def valuesFrom (number : Nat) : List (List Char) → Except RecordError (List Json)
  | [] => .ok []
  | line :: lines =>
    if Text.isAllBlank line then valuesFrom (number + 1) lines
    else
      match Json.readToDepth? Json.maxDepth line with
      | some value => do return value :: (← valuesFrom (number + 1) lines)
      | none => .error (.notJson number)

/-- The values of a text, records or not. -/
def values (text : List Char) : Except RecordError (List Json) :=
  let body := Text.trimLeft text
  if body.head? == some '[' then itemsOf body else valuesFrom 1 (Text.lines text)

/-- The records of a text. -/
def read (text : String) : Except RecordError (List Json) := do
  return (← values text.toList).filter Json.isObject

/-- A record on a line of its own. -/
def writeLine (record : Json) : List Char := record.compact ++ ['\n']

/-- Records, one to a line. -/
def write (records : List Json) : String := String.ofList (records.flatMap writeLine)

@[simp] theorem valuesFrom_nil (number : Nat) : valuesFrom number [] = .ok [] := rfl

theorem valuesFrom_blank {line : List Char} (h : Text.isAllBlank line = true) (number : Nat)
    (lines : List (List Char)) :
    valuesFrom number (line :: lines) = valuesFrom (number + 1) lines := by
  simp [valuesFrom, h]

end RecordText

end RecordSieve
