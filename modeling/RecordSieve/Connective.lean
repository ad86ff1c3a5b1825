/-
RecordSieve.Connective — how a condition joins its children.
-/
import RecordSieve.Text.Ascii

namespace RecordSieve

/-- A condition holds if all of its children do, or if any of them does. -/
inductive Connective where
  | and
  | or
  deriving DecidableEq, Repr

namespace Connective

/-- The connective's name in definitions and messages. -/
def name : Connective → String
  | and => "AND"
  | or => "OR"

/-- The connective with a given name, in any ASCII case. -/
def ofName? (text : String) : Option Connective :=
  if Text.sameName text "and" then some and
  else if Text.sameName text "or" then some or
  else none

/-- The value of a child that settles the condition. -/
def decisive : Connective → Bool
  | and => false
  | or => true

/-- The connective with the other decisive value. -/
def dual : Connective → Connective
  | and => or
  | or => and

end Connective

end RecordSieve
