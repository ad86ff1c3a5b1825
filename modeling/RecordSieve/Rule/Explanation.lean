/-
RecordSieve.Rule.Explanation — how a rule came to its answer for a
record.

An explanation is a walk: it visits the nodes that evaluation visits, in
the same order, and notes each field rule that holds.  With tracing on
it also notes every step.  A node is known by its path, the indices of
the children that lead to it from the root.
-/
import RecordSieve.Rule.Basic

namespace RecordSieve

/-- The way from the root to a node: the index of a child at each level. -/
abbrev NodePath := List Nat

/-- A path as text: `root.rules[0].rules[2]`. -/
def NodePath.text (path : NodePath) : String :=
  "root" ++ String.join (path.map fun i => ".rules[" ++ Decimal.natText i ++ "]")

/-- A step of a walk. -/
inductive TraceStep where
  /-- A condition with a number of children is entered. -/
  | enter (path : NodePath) (connective : Connective) (childCount : Nat)
  /-- A field rule has been tested. -/
  | test (path : NodePath) (rule : FieldRule) (matched : Bool)
  /-- A child has decided its condition. -/
  | decide (path : NodePath) (connective : Connective) (child : Nat)
  /-- The value of a condition's children is negated. -/
  | negate (path : NodePath) (before : Bool)

/-- A field rule that holds, with its path. -/
structure Match where
  path : NodePath
  rule : FieldRule

/-- What a walk has found. -/
structure Walk where
  matched : Bool
  found : List Match
  steps : List TraceStep

/-- How a rule came to its answer for a record. -/
structure Explanation where
  matched : Bool
  /-- The field rules that hold, as text. -/
  conditions : List String
  /-- The steps of the walk, as text; none if tracing is off. -/
  trace : List String
  deriving DecidableEq, Repr

namespace TraceStep

/-- A truth value as it stands in a trace. -/
def boolText (b : Bool) : String := if b then "true" else "false"

/-- The step as a line of a trace. -/
def text : TraceStep → String
  | enter path connective childCount =>
    let place := path.text
    let name := connective.name
    let count := Decimal.natText childCount
    s!"{place}: 开始评估 {name} 组 (共 {count} 个子节点)"
  | test path rule matched =>
    let place := path.text
    let rule := rule.display
    let result := if matched then "MATCHED" else "NOT_MATCHED"
    s!"{place}: {rule} => {result}"
  | decide path connective child =>
    let place := path.text
    let name := connective.name
    let index := Decimal.natText child
    s!"{place}: {name} 短路 - 子节点 {index}"
  | negate path before =>
    let place := path.text
    let old := boolText before
    let new := boolText (!before)
    s!"{place}: NOT 取反 {old} => {new}"

end TraceStep

/-- The match as a line of an explanation. -/
def Match.text (m : Match) : String :=
  let place := m.path.text
  let rule := m.rule.friendly
  s!"{place}: {rule}"

namespace Rule

/-- The steps, if tracing is on. -/
def traced (tracing : Bool) (steps : List TraceStep) : List TraceStep :=
  if tracing then steps else []

/-- The walk of a field rule. -/
def walkField (options : RuleOptions) (record : Json) (tracing : Bool) (path : NodePath)
    (r : FieldRule) : Except Abort Walk := do
  let matched ← r.evaluate options record
  return ⟨matched, if matched then [⟨path, r⟩] else [], traced tracing [.test path r matched]⟩

mutual

/-- Walks a rule that stands at a path. -/
def walk (options : RuleOptions) (record : Json) (tracing : Bool) (path : NodePath) :
    Rule → Except Abort Walk
  | field r => walkField options record tracing path r
  | condition connective negated children => do
    let w ← walkChildren options record tracing path connective 0 children
    let entered := traced tracing [.enter path connective children.length]
    let negation := if negated then traced tracing [.negate path w.matched] else []
    return ⟨w.matched != negated, w.found, entered ++ w.steps ++ negation⟩

/-- Walks the children of a condition from an index on, up to the one
that decides it. -/
def walkChildren (options : RuleOptions) (record : Json) (tracing : Bool) (path : NodePath)
    (connective : Connective) (index : Nat) : List Rule → Except Abort Walk
  | [] => .ok ⟨!connective.decisive, [], []⟩
  | child :: children => do
    let w ← walk options record tracing (path ++ [index]) child
    if w.matched == connective.decisive then
      return { w with steps := w.steps ++ traced tracing [.decide path connective index] }
    else
      let rest ← walkChildren options record tracing path connective (index + 1) children
      return ⟨rest.matched, w.found ++ rest.found, w.steps ++ rest.steps⟩

end

/-- The explanation of the rule's answer for a record. -/
def explain (options : RuleOptions) (tracing : Bool) (rule : Rule) (record : Json) :
    Except Abort Explanation := do
  let w ← rule.walk options record tracing []
  return ⟨w.matched, w.found.map Match.text, w.steps.map TraceStep.text⟩

end Rule

end RecordSieve
