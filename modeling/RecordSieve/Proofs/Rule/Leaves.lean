/-
RecordSieve.Proofs.Rule.Leaves — a rule does what its field rules do.

Options and the record reach a rule only through its field rules.  If
each of these answers alike under two options on two records, the walks
are the same, step by step (`walk_congr`), and with them the answer and
the explanation.
-/
import RecordSieve.Proofs.Rule.Reading

namespace RecordSieve.Rule

variable {options options' : RuleOptions} {record record' : Json}

mutual

/-- Walks over a rule are the same if its field rules answer alike. -/
theorem walk_congr (tracing : Bool) : ∀ (path : NodePath) (rule : Rule),
    (∀ r ∈ rule.leaves, r.evaluate options record = r.evaluate options' record') →
      walk options record tracing path rule = walk options' record' tracing path rule
  | path, field r, h => by
    rw [walk, walk, walkField, walkField, h r (by simp [leaves])]
  | path, condition connective negated children, h => by
    rw [leaves] at h
    rw [walk, walk, walkChildren_congr tracing path connective 0 children h]

theorem walkChildren_congr (tracing : Bool) (path : NodePath) (connective : Connective) :
    ∀ (index : Nat) (children : List Rule),
      (∀ r ∈ leavesAll children, r.evaluate options record = r.evaluate options' record') →
        walkChildren options record tracing path connective index children =
          walkChildren options' record' tracing path connective index children
  | index, [], _ => by rw [walkChildren, walkChildren]
  | index, child :: children, h => by
    simp only [leavesAll, List.mem_append] at h
    rw [walkChildren, walkChildren,
      walk_congr tracing (path ++ [index]) child fun r hr => h r (Or.inl hr),
      walkChildren_congr tracing path connective (index + 1) children fun r hr => h r (Or.inr hr)]

end

theorem evaluate_congr {rule : Rule}
    (h : ∀ r ∈ rule.leaves, r.evaluate options record = r.evaluate options' record') :
    rule.evaluate options record = rule.evaluate options' record' := by
  rw [← walk_matched false [] rule, ← walk_matched false [] rule, walk_congr false [] rule h]

theorem explain_congr (tracing : Bool) {rule : Rule}
    (h : ∀ r ∈ rule.leaves, r.evaluate options record = r.evaluate options' record') :
    rule.explain options tracing record = rule.explain options' tracing record' := by
  rw [explain, explain, walk_congr tracing [] rule h]

theorem leavesAll_eq_flatMap (rules : List Rule) : leavesAll rules = rules.flatMap leaves := by
  induction rules with
  | nil => rfl
  | cons rule rules ih => rw [leavesAll, ih, List.flatMap_cons]

mutual

/-- The fields of a rule are those of its field rules. -/
theorem fieldList_eq_map_leaves : ∀ rule : Rule, rule.fieldList = rule.leaves.map FieldRule.field
  | field r => rfl
  | condition connective negated children => by
    rw [fieldList, leaves, fieldListAll_eq_map_leavesAll children]

theorem fieldListAll_eq_map_leavesAll : ∀ rules : List Rule,
    fieldListAll rules = (leavesAll rules).map FieldRule.field
  | [] => rfl
  | rule :: rules => by
    rw [fieldListAll, leavesAll, List.map_append, fieldList_eq_map_leaves rule,
      fieldListAll_eq_map_leavesAll rules]

end

theorem field_mem_fields {rule : Rule} {r : FieldRule} (h : r ∈ rule.leaves) :
    r.field ∈ rule.fields := by
  rw [mem_fields, fieldList_eq_map_leaves]
  exact List.mem_map_of_mem h

end RecordSieve.Rule
