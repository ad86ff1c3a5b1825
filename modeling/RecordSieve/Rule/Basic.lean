/-
RecordSieve.Rule.Basic — rules: field rules joined by conditions.

A field rule tests one field of a record; a condition joins rules by AND
or OR and may be negated.  A condition asks its children from left to
right and stops at the first that decides it.
-/
import RecordSieve.Connective
import RecordSieve.Json.Path
import RecordSieve.Predicate

namespace RecordSieve

/-- A test of one field.  `raw` is the operand value as it was given, and
`operands` what it was read as; both come from one assignment. -/
structure FieldRule where
  field : String
  kind : FieldType
  family : OperatorFamily
  negated : Bool
  raw : Option Json
  operands : List (Option FieldValue)

/-- A rule. -/
inductive Rule where
  | field (rule : FieldRule)
  | condition (connective : Connective) (negated : Bool) (children : List Rule)

namespace FieldRule

/-- A field rule without operand. -/
def new (field : String) (kind : FieldType) (op : Operator) : FieldRule :=
  ⟨field, kind, op.split.1, op.split.2, none, []⟩

/-- The operator of the rule. -/
def operator (r : FieldRule) : Operator := r.family.operator r.negated

@[simp] theorem split_operator (r : FieldRule) : r.operator.split = (r.family, r.negated) :=
  OperatorFamily.split_operator r.family r.negated

/-- The operands that a value is read as: one for each item of an array,
one for a scalar, and an absent one for the empty array. -/
def operandsOf (options : RuleOptions) (kind : FieldType) :
    Option Json → Attempt CoercionError (List (Option FieldValue))
  | none => .ok []
  | some (.array []) => .ok [none]
  | some (.array items) => items.mapM (coerce options kind)
  | some value => do return [← coerce options kind value]

/-- The rule with another operand value. -/
def assign (r : FieldRule) (options : RuleOptions) (value : Option Json) :
    Attempt CoercionError FieldRule := do
  return { r with raw := value, operands := ← operandsOf options r.kind value }

/-- What the rule's data are tested against. -/
def context (r : FieldRule) (options : RuleOptions) : TestContext := ⟨r.kind, r.operands, options⟩

/-- Whether a record passes the rule. -/
def evaluate (options : RuleOptions) (record : Json) (r : FieldRule) : Except Abort Bool :=
  match record.resolve r.field with
  | none => .ok (r.family.holdsMissing r.negated (r.context options))
  | some token => do return (← r.family.holds (r.context options) token) != r.negated

/-- The operand value after the operator, if there is one. -/
def rawText (r : FieldRule) : String :=
  match r.raw with
  | some value => " " ++ value.text
  | none => ""

/-- The rule as text: field in backquotes, operator and operand. -/
def friendly (r : FieldRule) : String :=
  let name := r.field
  let op := r.operator.name
  let raw := r.rawText
  s!"`{name}` {op}{raw}"

/-- The rule as text with the type in front. -/
def display (r : FieldRule) : String :=
  let name := r.field
  let kind := r.kind.name
  let op := r.operator.name
  let raw := r.rawText
  s!"{kind}(`{name}`) {op}{raw}"

end FieldRule

namespace Rule

mutual

/-- Whether a record passes the rule. -/
def evaluate (options : RuleOptions) (record : Json) : Rule → Except Abort Bool
  | field r => r.evaluate options record
  | condition connective negated children => do
    return (← evaluateChildren options record connective children) != negated

/-- The value of the children of a condition: the decisive one as soon
as a child has it, and the other one at the end. -/
def evaluateChildren (options : RuleOptions) (record : Json) (connective : Connective) :
    List Rule → Except Abort Bool
  | [] => .ok (!connective.decisive)
  | child :: children => do
    if (← evaluate options record child) == connective.decisive then return connective.decisive
    else evaluateChildren options record connective children

end

/-- The text of a condition of these child texts. -/
def conditionText (connective : Connective) (negated : Bool) (children : List String) : String :=
  let joined :=
    (" " ++ connective.name ++ " ").intercalate (children.map fun text => "(" ++ text ++ ")")
  (if negated then "NOT " else "") ++ "(" ++ joined ++ ")"

mutual

/-- The rule as text, with each field rule in the given form. -/
def render (leaf : FieldRule → String) : Rule → String
  | field r => leaf r
  | condition connective negated children =>
    conditionText connective negated (renderAll leaf children)

/-- The texts of several rules. -/
def renderAll (leaf : FieldRule → String) : List Rule → List String
  | [] => []
  | rule :: rules => render leaf rule :: renderAll leaf rules

end

/-- The rule as text with types. -/
def display (rule : Rule) : String := rule.render FieldRule.display

/-- The rule as text without types. -/
def friendly (rule : Rule) : String := rule.render FieldRule.friendly

mutual

/-- The fields that the rule tests, from left to right. -/
def fieldList : Rule → List String
  | field r => [r.field]
  | condition _ _ children => fieldListAll children

/-- The fields that several rules test. -/
def fieldListAll : List Rule → List String
  | [] => []
  | rule :: rules => fieldList rule ++ fieldListAll rules

end

/-- Puts a name into a list of names that is sorted and without repeats. -/
def insertName (name : String) : List String → List String
  | [] => [name]
  | n :: names =>
    if name < n then name :: n :: names
    else if name = n then n :: names
    else n :: insertName name names

/-- The fields that the rule tests, sorted and each once. -/
def fields (rule : Rule) : List String := rule.fieldList.foldr insertName []

mutual

/-- The number of field rules and conditions in the rule. -/
def nodeCount : Rule → Nat
  | field _ => 1
  | condition _ _ children => nodeCountAll children + 1

/-- The number of nodes of several rules. -/
def nodeCountAll : List Rule → Nat
  | [] => 0
  | rule :: rules => nodeCount rule + nodeCountAll rules

end

theorem mem_insertName {a b : String} {names : List String} :
    a ∈ insertName b names ↔ a = b ∨ a ∈ names := by
  induction names with
  | nil => simp [insertName]
  | cons n names ih =>
    simp only [insertName]
    split
    · simp
    · split
      · next h => subst h; simp
      · simp only [List.mem_cons, ih]
        constructor
        · rintro (h | h | h) <;> simp [h]
        · rintro (h | h | h) <;> simp [h]

theorem mem_fields {rule : Rule} {name : String} : name ∈ rule.fields ↔ name ∈ rule.fieldList := by
  unfold fields
  induction rule.fieldList with
  | nil => simp
  | cons n names ih => simp [mem_insertName, ih]

end Rule

end RecordSieve
