/-
RecordSieve.FieldType — the seven types in which a field is compared.
-/
import RecordSieve.Text.Ascii

namespace RecordSieve

/-- The type of a field rule's data and operands. -/
inductive FieldType where
  | string
  | integer
  | double
  | boolean
  | dateTime
  | date
  | duration
  deriving DecidableEq, Repr

namespace FieldType

/-- The types in the order in which names are looked up. -/
def all : List FieldType := [string, integer, double, boolean, dateTime, date, duration]

/-- The type's name in definitions and messages. -/
def name : FieldType → String
  | string => "String"
  | integer => "Integer"
  | double => "Double"
  | boolean => "Boolean"
  | dateTime => "DateTime"
  | date => "Date"
  | duration => "Duration"

/-- The type with a given name, in any ASCII case. -/
def ofName? (text : String) : Option FieldType := all.find? fun t => Text.sameName t.name text

theorem mem_all (t : FieldType) : t ∈ all := by cases t <;> decide

end FieldType

end RecordSieve
