/-
RecordSieve.Rule.Definition — reading rules from their JSON definitions.

An object with the key `condition` is a condition: its children are the
objects in the array `rules` (other items are passed over), and it is
negated if `not` is true.  Any other object is a field rule with the keys
`field`, `type`, `operator` and, where the operator takes one, `value`.

The first fault met decides the error: a condition's own kind comes
before its children, which are read from left to right.
-/
import RecordSieve.Json.Reader
import RecordSieve.Rule.Basic

namespace RecordSieve

namespace Definition

/-- The connective that the value of `condition` names. -/
def connectiveOf : Json → Attempt RuleError Connective
  | .string s => Attempt.ofOption (.unknownConnective s) (Connective.ofName? s)
  | value => Attempt.refuse (.unknownConnective value.text)

/-- Whether the members of a condition negate it. -/
def isNegated (members : List (String × Json)) : Bool :=
  match members.lookup "not" with
  | some (.bool b) => b
  | _ => false

/-- The string that an object must have under a key. -/
def requiredString (members : List (String × Json)) (key : String) : Attempt RuleError String :=
  match members.lookup key with
  | none => Attempt.refuse (.missingField key)
  | some (.string s) => .ok s
  | some _ => Attempt.refuse (.invalidShape key "字符串")

/-- The operand value as it stands in messages. -/
def valueText : Option Json → String
  | some value => value.text
  | none => ""

/-- The field rule of an object. -/
def fieldRuleOf (options : RuleOptions) (members : List (String × Json)) :
    Attempt RuleError FieldRule := do
  let field ← requiredString members "field"
  let typeName ← requiredString members "type"
  let kind ← Attempt.ofOption (.unknownFieldType typeName) (FieldType.ofName? typeName)
  let operatorName ← requiredString members "operator"
  let op ← Attempt.ofOption (.unknownOperator operatorName) (Operator.ofName? operatorName)
  let value := members.lookup "value"
  ((FieldRule.new field kind op).assign options value).mapCause
    (RuleError.valueCoercion field (valueText value))

end Definition

namespace Rule

open Definition

mutual

/-- The rule of a definition. -/
def ofJson (options : RuleOptions) : Json → Attempt RuleError Rule
  | .object members =>
    match members.lookup "condition" with
    | some value => do
      let connective ← connectiveOf value
      return condition connective (isNegated members) (← childrenOf options members)
    | none => do return field (← fieldRuleOf options members)
  | _ => Attempt.refuse (.invalidShape "rule" "JSON 对象")

/-- The children of a condition, from the member `rules`. -/
def childrenOf (options : RuleOptions) : List (String × Json) → Attempt RuleError (List Rule)
  | [] => .ok []
  | (key, value) :: members =>
    if key == "rules" then rulesOf options value else childrenOf options members

/-- The rules of the value of `rules`; it has none if it is no array. -/
def rulesOf (options : RuleOptions) : Json → Attempt RuleError (List Rule)
  | .array items => rulesOfItems options items
  | _ => .ok []

/-- The rules of the objects among some items, in order. -/
def rulesOfItems (options : RuleOptions) : List Json → Attempt RuleError (List Rule)
  | [] => .ok []
  | item :: items =>
    if item.isObject then do
      let rule ← ofJson options item
      return rule :: (← rulesOfItems options items)
    else rulesOfItems options items

end

/-- The rule of a definition given as JSON text. -/
def ofText (options : RuleOptions) (text : String) : Attempt RuleError Rule := do
  ofJson options (← Attempt.ofOption .notJson (Json.ofText? text))

end Rule

end RecordSieve
