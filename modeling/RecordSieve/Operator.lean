/-
RecordSieve.Operator — the twenty operators and their ten families.

An operator is a family together with a negation (`Operator.split`,
`OperatorFamily.operator`).  "At most" is the negation of "greater" and
"at least" the negation of "less"; neither has a comparison of its own.

A name is found by its ASCII letters alone: `not_equal`, `Not-Equal` and
`notEqual` name one operator.
-/
import RecordSieve.Text.Ascii

namespace RecordSieve

/-- The operators of a field rule. -/
inductive Operator where
  | equal
  | notEqual
  | isIn
  | notIn
  | less
  | lessOrEqual
  | greater
  | greaterOrEqual
  | between
  | notBetween
  | isNull
  | isNotNull
  | isEmpty
  | isNotEmpty
  | contains
  | notContains
  | beginsWith
  | notBeginsWith
  | endsWith
  | notEndsWith
  deriving DecidableEq, Repr

/-- The tests that operators are made of. -/
inductive OperatorFamily where
  | equal
  | isIn
  | less
  | greater
  | between
  | null
  | empty
  | contains
  | beginsWith
  | endsWith
  deriving DecidableEq, Repr

namespace Operator

/-- The operators in the order in which names are looked up. -/
def all : List Operator :=
  [equal, notEqual, isIn, notIn, less, lessOrEqual, greater, greaterOrEqual, between, notBetween,
   isNull, isNotNull, isEmpty, isNotEmpty, contains, notContains, beginsWith, notBeginsWith,
   endsWith, notEndsWith]

/-- The operator's name in definitions and messages. -/
def name : Operator → String
  | equal => "Equal"
  | notEqual => "NotEqual"
  | isIn => "In"
  | notIn => "NotIn"
  | less => "Less"
  | lessOrEqual => "LessOrEqual"
  | greater => "Greater"
  | greaterOrEqual => "GreaterOrEqual"
  | between => "Between"
  | notBetween => "NotBetween"
  | isNull => "IsNull"
  | isNotNull => "IsNotNull"
  | isEmpty => "IsEmpty"
  | isNotEmpty => "IsNotEmpty"
  | contains => "Contains"
  | notContains => "NotContains"
  | beginsWith => "BeginsWith"
  | notBeginsWith => "NotBeginsWith"
  | endsWith => "EndsWith"
  | notEndsWith => "NotEndsWith"

/-- The operator's family, and whether the family's test is negated. -/
def split : Operator → OperatorFamily × Bool
  | equal => (.equal, false)
  | notEqual => (.equal, true)
  | isIn => (.isIn, false)
  | notIn => (.isIn, true)
  | less => (.less, false)
  | greaterOrEqual => (.less, true)
  | greater => (.greater, false)
  | lessOrEqual => (.greater, true)
  | between => (.between, false)
  | notBetween => (.between, true)
  | isNull => (.null, false)
  | isNotNull => (.null, true)
  | isEmpty => (.empty, false)
  | isNotEmpty => (.empty, true)
  | contains => (.contains, false)
  | notContains => (.contains, true)
  | beginsWith => (.beginsWith, false)
  | notBeginsWith => (.beginsWith, true)
  | endsWith => (.endsWith, false)
  | notEndsWith => (.endsWith, true)

/-- Whether `c` is a letter that counts in an operator's name. -/
def isNameLetter (c : Char) : Bool := c.isAlpha

/-- The ASCII letters of a text, in lower case. -/
def lettersOf (text : String) : List Char := Text.lowerAscii (text.toList.filter isNameLetter)

/-- The letters of a text as a string. -/
def normalizeName (text : String) : String := String.ofList (lettersOf text)

/-- The operator that a text spells. -/
def ofName? (text : String) : Option Operator :=
  all.find? fun op => Text.lowerAscii op.name.toList == lettersOf text

theorem mem_all (op : Operator) : op ∈ all := by cases op <;> decide

end Operator

namespace OperatorFamily

/-- The family's name. -/
def name : OperatorFamily → String
  | equal => "Equal"
  | isIn => "In"
  | less => "Less"
  | greater => "Greater"
  | between => "Between"
  | null => "Null"
  | empty => "Empty"
  | contains => "Contains"
  | beginsWith => "BeginsWith"
  | endsWith => "EndsWith"

/-- The operator of a family and a negation. -/
def operator : OperatorFamily → Bool → Operator
  | equal, false => .equal
  | equal, true => .notEqual
  | isIn, false => .isIn
  | isIn, true => .notIn
  | less, false => .less
  | less, true => .greaterOrEqual
  | greater, false => .greater
  | greater, true => .lessOrEqual
  | between, false => .between
  | between, true => .notBetween
  | null, false => .isNull
  | null, true => .isNotNull
  | empty, false => .isEmpty
  | empty, true => .isNotEmpty
  | contains, false => .contains
  | contains, true => .notContains
  | beginsWith, false => .beginsWith
  | beginsWith, true => .notBeginsWith
  | endsWith, false => .endsWith
  | endsWith, true => .notEndsWith

@[simp] theorem split_operator (f : OperatorFamily) (negated : Bool) :
    (f.operator negated).split = (f, negated) := by
  cases f <;> cases negated <;> rfl

end OperatorFamily

@[simp] theorem Operator.operator_split (op : Operator) :
    op.split.1.operator op.split.2 = op := by
  cases op <;> rfl

end RecordSieve
