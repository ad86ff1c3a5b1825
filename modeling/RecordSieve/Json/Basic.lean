/-
RecordSieve.Json.Basic — JSON values.

A number is an integer of at most 64 bits or a finite double; `3` and
`3.0` are different values.  The members of an object are kept in the
order of their keys, each key once, so that two objects with the same
members are equal.
-/
import RecordSieve.Decimal.Binary64

namespace RecordSieve

/-- The integers that a JSON number holds exactly: those of 64 bits, with
or without a sign. -/
def JsonInteger (i : Int) : Prop := -9223372036854775808 ≤ i ∧ i < 18446744073709551616

instance (i : Int) : Decidable (JsonInteger i) := inferInstanceAs (Decidable (_ ∧ _))

/-- A JSON number. -/
inductive JsonNumber where
  | integer (value : Int) (inRange : JsonInteger value)
  | double (value : Decimal.Binary64)

/-- A JSON value. -/
inductive Json where
  | null
  | bool (value : Bool)
  | number (value : JsonNumber)
  | string (value : String)
  | array (items : List Json)
  | object (members : List (String × Json))

namespace JsonNumber

/-- The number as a double, rounded if it is a large integer. -/
def toBinary64 : JsonNumber → Decimal.Binary64
  | integer i _ => .ofInt i
  | double x => x

end JsonNumber

namespace Json

instance : Inhabited Json := ⟨null⟩

/-- The number of a natural number below 2⁶⁴; larger ones do not occur
as counts or indices and are written as the largest. -/
def ofNat (n : Nat) : Json :=
  if h : JsonInteger n then number (.integer n h) else number (.integer 18446744073709551615 (by decide))

/-- Whether the value is an object. -/
def isObject : Json → Bool
  | object _ => true
  | _ => false

/-- Sets a member in a list that is sorted by key, replacing an earlier
one of the same key. -/
def insertMember (key : String) (value : Json) : List (String × Json) → List (String × Json)
  | [] => [(key, value)]
  | (k, v) :: rest =>
    if key < k then (key, value) :: (k, v) :: rest
    else if key = k then (key, value) :: rest
    else (k, v) :: insertMember key value rest

/-- The object with these members; of several with one key the last wins. -/
def ofMembers (members : List (String × Json)) : Json :=
  object (members.foldl (fun acc (k, v) => insertMember k v acc) [])

/-- The member of an object with a given key. -/
def get? (key : String) : Json → Option Json
  | object members => members.lookup key
  | _ => none

/-- The name of the value's shape. -/
def shape : Json → String
  | null => "null"
  | bool _ => "boolean"
  | number _ => "number"
  | string _ => "string"
  | array _ => "array"
  | object _ => "object"

@[simp] theorem get?_object (key : String) (members : List (String × Json)) :
    (object members).get? key = members.lookup key := rfl

@[simp] theorem isObject_object (members : List (String × Json)) :
    (object members).isObject = true := rfl

end Json

end RecordSieve
