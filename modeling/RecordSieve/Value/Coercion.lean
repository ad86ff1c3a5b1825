/-
RecordSieve.Value.Coercion — from JSON values to values of a field type.

`null` is an absent value, and so is a blank string for every type but
String.  Operands of rules are coerced strictly; data of records are
coerced leniently, so that data of another form counts as absent.
-/
import RecordSieve.Calendar.Reader
import RecordSieve.Decimal.Literal
import RecordSieve.Duration.Reader
import RecordSieve.Json.Writer
import RecordSieve.Value.Basic

namespace RecordSieve.Coercion

open RecordSieve.Text RecordSieve.Decimal

/-- The text of a scalar. -/
def scalarText (kind : FieldType) : Json → Attempt CoercionError String
  | .string s => .ok s
  | .number n => .ok (String.ofList n.write)
  | .bool b => .ok (if b then "true" else "false")
  | value => Attempt.refuse (.unsupportedShape kind value.shape)

/-- The doubles −2⁶³ and 2⁶³.  The greatest signed 64-bit integer is no
double, so the range ends before the second. -/
def int64Bound (negative : Bool) : Binary64 :=
  ⟨negative, twoTo (unitExponent + 63), representable_twoTo (by decide)⟩

/-- Whether a double lies between the bounds, the lower one included. -/
def inInt64Range (x : Binary64) : Bool :=
  (int64Bound true).order x != .gt && x.order (int64Bound false) == .lt

/-- The double without its fraction, or the end of the range that it is beyond. -/
def clampToInt64 (x : Binary64) : Int := max int64Min (min x.truncate int64Max)

/-- The signed 64-bit integer that a number is held as, if it is. -/
def heldInt64? : JsonNumber → Option Int
  | .integer i _ => if fitsInt64 i then some i else none
  | .double _ => none

/-- The integer that a number is.  A number that is not held as a signed
64-bit integer is taken as a double; a whole one beyond the range is out
of range, and one with a fraction is no integer. -/
def integerOfNumber (n : JsonNumber) : Attempt CoercionError Int :=
  let text := String.ofList n.write
  match heldInt64? n with
  | some i => .ok i
  | none =>
    let x := n.toBinary64
    if x.isWhole && inInt64Range x then .ok (clampToInt64 x)
    else if x.isWhole then Attempt.refuse (.outOfRange text)
    else Attempt.refuse (.invalid .integer text)

/-- The integer of a JSON value. -/
def toInteger : Json → Attempt CoercionError Int
  | .number n => integerOfNumber n
  | .string s => Attempt.ofOption (.invalid .integer s) (int64OfText? (trim s.toList))
  | .bool b => .ok (if b then 1 else 0)
  | value => Attempt.refuse (.unsupportedShape .integer value.shape)

/-- The double of a JSON value. -/
def toDouble : Json → Attempt CoercionError Binary64
  | .number n => .ok n.toBinary64
  | .string s => Attempt.ofOption (.invalid .double s) (readFinite? (trim s.toList))
  | .bool b => .ok (if b then .one else .zero)
  | value => Attempt.refuse (.unsupportedShape .double value.shape)

/-- Whether a number is not zero. -/
def isNonzero : JsonNumber → Bool
  | .integer i _ => i != 0
  | .double x => !x.isZero

/-- The truth value of a JSON value. -/
def toBoolean : Json → Attempt CoercionError Bool
  | .bool b => .ok b
  | .string s =>
    let cs := trim s.toList
    if equalIgnoringCase cs "true".toList then .ok true
    else if equalIgnoringCase cs "false".toList then .ok false
    else Attempt.refuse (.invalid .boolean (String.ofList cs))
  | .number n => .ok (isNonzero n)
  | value => Attempt.refuse (.unsupportedShape .boolean value.shape)

/-- The duration of a text; reading one never breaks off. -/
def toDuration (locale : Locale) (text : String) : Attempt CoercionError Duration :=
  match Duration.read locale text with
  | .ok d => .ok d
  | .error cause => Attempt.refuse cause

/-- The value of a type that a JSON value other than null and blank
strings denotes. -/
def present (options : RuleOptions) (kind : FieldType) (value : Json) :
    Attempt CoercionError FieldValue :=
  match kind with
  | .string => do return .string (← scalarText kind value)
  | .integer => do return .integer (← toInteger value)
  | .double => do return .double (← toDouble value)
  | .boolean => do return .boolean (← toBoolean value)
  | .dateTime => do return .dateTime (← Calendar.readMoment options.locale (← scalarText kind value))
  | .date => do return .date (← Calendar.readDate options.locale (← scalarText kind value))
  | .duration => do return .duration (← toDuration options.locale (← scalarText kind value))

/-- Whether a JSON value is absent for a type. -/
def isAbsent (kind : FieldType) : Json → Bool
  | .null => true
  | .string s => kind != .string && isAllBlank s.toList
  | _ => false

end RecordSieve.Coercion

namespace RecordSieve

/-- The value of a type that a JSON value denotes, or why it denotes none. -/
def coerce (options : RuleOptions) (kind : FieldType) (value : Json) :
    Attempt CoercionError (Option FieldValue) :=
  if Coercion.isAbsent kind value then .ok none
  else do return some (← Coercion.present options kind value)

/-- The same, with data of another form taken as absent. -/
def coerceData (options : RuleOptions) (kind : FieldType) (value : Json) :
    Except Abort (Option FieldValue) :=
  (coerce options kind value).orAbsent

end RecordSieve
