/-
RecordSieve.Json.Path — finding a value in a record by a dotted path.

A path is a list of member names.  A path that meets anything but an
object, or a missing member, finds nothing; the empty path finds the
record itself.
-/
import RecordSieve.Json.Basic
import RecordSieve.Text.Segment

namespace RecordSieve.Json

/-- The member names of a dotted path; empty pieces do not count. -/
def pathOf (field : String) : List String :=
  (Text.segments (· == '.') field.toList).map String.ofList

/-- The value that a path leads to. -/
def follow (value : Json) : List String → Option Json
  | [] => some value
  | key :: path => (value.get? key).bind fun v => follow v path

/-- The value of a dotted field of a record. -/
def resolve (record : Json) (field : String) : Option Json := record.follow (pathOf field)

@[simp] theorem follow_nil (value : Json) : value.follow [] = some value := rfl

/-- Following two paths one after the other is following their
concatenation. -/
theorem follow_append (value : Json) (p q : List String) :
    value.follow (p ++ q) = (value.follow p).bind fun v => v.follow q := by
  induction p generalizing value with
  | nil => rfl
  | cons key p ih =>
    simp only [List.cons_append, follow]
    cases value.get? key with
    | none => rfl
    | some v => simp [ih]

end RecordSieve.Json
