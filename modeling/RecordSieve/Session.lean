/-
RecordSieve.Session — a rule in use: its definition, the tree read from
it under the current options, and whether walks are traced.

Changing the options reads the definition again; if that is refused the
session stays as it was.  The required fields are those of the first
reading: options never change which fields a definition names.
-/
import RecordSieve.Rule.Definition
import RecordSieve.Rule.Explanation

namespace RecordSieve

/-- A rule in use. -/
structure Session where
  definition : Json
  root : Rule
  options : RuleOptions
  requiredFields : List String
  tracing : Bool

namespace Session

/-- The session of a definition under options, with tracing off. -/
def start (definition : Json) (options : RuleOptions) : Attempt RuleError Session := do
  let root ← Rule.ofJson options definition
  return ⟨definition, root, options, root.fields, false⟩

/-- The session of a definition given as JSON text, under default options. -/
def startText (text : String) : Attempt RuleError Session := do
  start (← Attempt.ofOption .notJson (Json.ofText? text)) {}

/-- The session under other options; only the tree and the options change. -/
def withOptions (s : Session) (options : RuleOptions) : Attempt RuleError Session := do
  return { s with root := ← Rule.ofJson options s.definition, options := options }

/-- The session with tracing on. -/
def traced (s : Session) : Session := { s with tracing := true }

/-- Whether a record passes the rule. -/
def evaluate (s : Session) (record : Json) : Except Abort Bool := s.root.evaluate s.options record

/-- How the rule comes to its answer for a record. -/
def explain (s : Session) (record : Json) : Except Abort Explanation :=
  s.root.explain s.options s.tracing record

/-- The records that pass the rule, in order. -/
def filter (s : Session) (records : List Json) : Except Abort (List Json) :=
  records.filterM s.evaluate

/-- The objects in an array that pass the rule, in order; none if the
data are no array. -/
def filterArray (s : Session) (data : Json) : Except Abort (List Json) :=
  match data with
  | .array items => s.filter (items.filter Json.isObject)
  | _ => .ok []

/-- The rule as text with types. -/
def display (s : Session) : String := s.root.display

/-- The rule as text without types. -/
def friendly (s : Session) : String := s.root.friendly

end Session

end RecordSieve
