/-
RecordSieve.Value.Basic — the values that fields are compared by.

Values of one type have an order, which for strings is the collation
order of the options; values of different types have none.
-/
import RecordSieve.Calendar.Writer
import RecordSieve.Collation
import RecordSieve.Decimal.Layout
import RecordSieve.Duration.Basic
import RecordSieve.FieldType

namespace RecordSieve

/-- A value of one of the seven field types. -/
inductive FieldValue where
  | string (value : String)
  | integer (value : Int)
  | double (value : Decimal.Binary64)
  | boolean (value : Bool)
  | dateTime (value : Moment)
  | date (value : Date)
  | duration (value : Duration)

namespace FieldValue

/-- The value's type. -/
def kind : FieldValue → FieldType
  | string _ => .string
  | integer _ => .integer
  | double _ => .double
  | boolean _ => .boolean
  | dateTime _ => .dateTime
  | date _ => .date
  | duration _ => .duration

/-- The default value of a type: what a record without the field is
taken to hold. -/
def default : FieldType → FieldValue
  | .string => string ""
  | .integer => integer 0
  | .double => double .zero
  | .boolean => boolean false
  | .dateTime => dateTime .first
  | .date => date .first
  | .duration => duration .zero

/-- Sameness without regard to options: strings character by character,
doubles by number, moments by instant. -/
def same : FieldValue → FieldValue → Bool
  | string a, string b => a == b
  | integer a, integer b => a == b
  | double a, double b => a.equal b
  | boolean a, boolean b => a == b
  | dateTime a, dateTime b => a.sameInstant b
  | date a, date b => a == b
  | duration a, duration b => a == b
  | _, _ => false

/-- Whether the value is its type's default. -/
def isDefault (v : FieldValue) : Bool := v.same (default v.kind)

/-- The order of two values of one type. -/
def order? (flags : CompareFlags) : FieldValue → FieldValue → Option Ordering
  | string a, string b => some (Collation.order flags a b)
  | integer a, integer b => some (compare a b)
  | double a, double b => some (a.order b)
  | boolean a, boolean b => some (compare a b)
  | dateTime a, dateTime b => some (a.order b)
  | date a, date b => some (a.order b)
  | duration a, duration b => some (a.order b)
  | _, _ => none

/-- Whether two values are equal under the flags. -/
def equal (flags : CompareFlags) (a b : FieldValue) : Bool := order? flags a b == some .eq

/-- The value's text. -/
def write : FieldValue → String
  | string s => s
  | integer i => Decimal.intText i
  | double x => String.ofList (Decimal.Layout.plain.write x)
  | boolean b => if b then "true" else "false"
  | dateTime m => String.ofList m.write
  | date d => String.ofList d.write
  | duration d => String.ofList d.write

@[simp] theorem kind_default (t : FieldType) : (default t).kind = t := by cases t <;> rfl

theorem order?_isSome_iff {flags : CompareFlags} {a b : FieldValue} :
    (order? flags a b).isSome = true ↔ a.kind = b.kind := by
  cases a <;> cases b <;> simp [order?, kind]

theorem equal_eq_true_iff {flags : CompareFlags} {a b : FieldValue} :
    equal flags a b = true ↔ order? flags a b = some .eq := by
  simp [equal]

end FieldValue

end RecordSieve
