/-
RecordSieve.Predicate — the test of each operator family.

`OperatorFamily.holds` is the test on the data of a field that a record
has; negation is applied outside.  `OperatorFamily.holdsMissing` is the
whole answer for a record that lacks the field, negation included: the
families In, Less, Greater and Between are then false either way.

A test stops at the first thing that decides it, so data are read only
as far as the answer needs.
-/
import RecordSieve.Operator
import RecordSieve.Value.Coercion

namespace RecordSieve

/-- What data are tested against. -/
structure TestContext where
  /-- The type that data are read as. -/
  kind : FieldType
  /-- The operands; an absent one comes from null or a blank. -/
  operands : List (Option FieldValue)
  options : RuleOptions

namespace TestContext

/-- The operand at a position, if it is there and not absent. -/
def operand? (ctx : TestContext) (i : Nat) : Option FieldValue := ctx.operands[i]?.join

/-- The value of data. -/
def read (ctx : TestContext) (token : Json) : Except Abort (Option FieldValue) :=
  coerceData ctx.options ctx.kind token

/-- Equality under the options. -/
def equal (ctx : TestContext) (a b : FieldValue) : Bool := a.equal ctx.options.compare b

/-- The order of the data and the first operand, if both are present. -/
def compareFirst? (ctx : TestContext) (token : Json) : Except Abort (Option Ordering) := do
  let data ← ctx.read token
  return data.bind fun v => (ctx.operand? 0).bind fun c => v.order? ctx.options.compare c

/-- Whether the data equal the first operand. -/
def equals (ctx : TestContext) (token : Json) : Except Abort Bool := do
  match ← ctx.read token, ctx.operand? 0 with
  | some v, some c => return ctx.equal v c
  | _, _ => return false

/-- Whether the data equal one of the operands. -/
def isListed (ctx : TestContext) (token : Json) : Except Abort Bool := do
  match ← ctx.read token with
  | some v => return ctx.operands.any fun c => c.any (ctx.equal v)
  | none => return false

/-- Whether the data lie between the first two operands, ends included. -/
def isBetween (ctx : TestContext) (token : Json) : Except Abort Bool := do
  match ctx.operand? 0, ctx.operand? 1 with
  | some low, some high =>
    match ← ctx.read token with
    | some v =>
      let fromLow := v.order? ctx.options.compare low
      let fromHigh := v.order? ctx.options.compare high
      return (fromLow == some .gt || fromLow == some .eq) &&
        (fromHigh == some .lt || fromHigh == some .eq)
    | none => return false
  | _, _ => return false

/-- Whether the data are absent. -/
def isNull (ctx : TestContext) (token : Json) : Except Abort Bool := do
  return (← ctx.read token).isNone

/-- Whether the data are absent or the default of their type. -/
def isEmpty (ctx : TestContext) (token : Json) : Except Abort Bool := do
  return (← ctx.read token).all FieldValue.isDefault

/-- Whether an item of an array equals a value. -/
def itemEquals (ctx : TestContext) (c : FieldValue) (item : Json) : Except Abort Bool := do
  return (← ctx.read item).any fun v => ctx.equal v c

/-- Whether a present value contains another: strings by substring, where
an empty one on either side does not count, and other types by equality. -/
def valueContains (ctx : TestContext) : FieldValue → FieldValue → Bool
  | .string hay, .string needle =>
    !hay.isEmpty && !needle.isEmpty && Collation.contains ctx.options.compare hay needle
  | v, c => ctx.equal v c

/-- Whether the data contain the first operand; an array does if one of
its items equals it. -/
def contains (ctx : TestContext) (token : Json) : Except Abort Bool :=
  match ctx.operand? 0 with
  | none => .ok false
  | some c =>
    match token with
    | .array items => items.anyM (ctx.itemEquals c)
    | token => do return (← ctx.read token).any fun v => ctx.valueContains v c

/-- Applies a test to the texts of the data and the first operand; an
empty text on either side does not count. -/
def textTest (ctx : TestContext) (test : CompareFlags → String → String → Bool) (token : Json) :
    Except Abort Bool := do
  match ← ctx.read token, ctx.operand? 0 with
  | some v, some c =>
    let data := v.write
    let operand := c.write
    return !data.isEmpty && !operand.isEmpty && test ctx.options.compare data operand
  | _, _ => return false

end TestContext

namespace OperatorFamily

/-- Whether data pass the family's test. -/
def holds (family : OperatorFamily) (ctx : TestContext) (token : Json) : Except Abort Bool :=
  match family with
  | equal => ctx.equals token
  | isIn => ctx.isListed token
  | less => do return (← ctx.compareFirst? token) == some .lt
  | greater => do return (← ctx.compareFirst? token) == some .gt
  | between => ctx.isBetween token
  | null => ctx.isNull token
  | empty => ctx.isEmpty token
  | contains => ctx.contains token
  | beginsWith => ctx.textTest Collation.startsWith token
  | endsWith => ctx.textTest Collation.endsWith token

/-- The answer of the family's operator for a record without the field. -/
def holdsMissing (family : OperatorFamily) (negated : Bool) (ctx : TestContext) : Bool :=
  match family with
  | equal => (ctx.operand? 0).all FieldValue.isDefault != negated
  | null | empty => !negated
  | contains | beginsWith | endsWith => negated
  | isIn | less | greater | between => false

end OperatorFamily

end RecordSieve
