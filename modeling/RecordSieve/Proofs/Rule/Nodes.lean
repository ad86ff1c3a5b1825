/-
RecordSieve.Proofs.Rule.Nodes — the nodes of a definition, in the order
in which they are read.

`Definition.nodes` lists the objects of a definition depth first and from
left to right: a condition stands before its child items.  Reading is
local to the nodes: a tree is read alike wherever the field rules among
them are (`ofJson_congr`), and each field rule of the tree was read from
one of them (`exists_node_of_mem_leaves`).
-/
import RecordSieve.Proofs.Rule.Definition
import RecordSieve.Proofs.Rule.Leaves

namespace RecordSieve

variable {options options' : RuleOptions} {members : List (String × Json)}

namespace Definition

/-- The nodes of a definition: the definition itself, and then, if it is
a condition, the nodes of its child items. -/
def nodes : Json → List Json
  | .object members =>
    .object members ::
      if (members.lookup "condition").isSome then
        (childItems members).attach.flatMap fun child => nodes child.1
      else []
  | value => [value]
termination_by value => sizeOf value
decreasing_by exact sizeOf_lt_of_mem_childItems child.2

theorem nodes_condition {value : Json} (h : members.lookup "condition" = some value) :
    nodes (.object members) = .object members :: (childItems members).flatMap nodes := by
  rw [nodes, h, Option.isSome_some, if_pos rfl, List.flatMap_subtype fun _ _ => rfl,
    List.unattach_attach]

theorem nodes_field (h : members.lookup "condition" = none) :
    nodes (.object members) = [.object members] := by
  rw [nodes, h]
  rfl

theorem nodes_of_not_isObject {value : Json} (h : value.isObject = false) :
    nodes value = [value] := by
  cases value with
  | object members => cases h
  | _ => simp [nodes]

theorem mem_nodes_self (value : Json) : value ∈ nodes value := by
  cases value <;> rw [nodes] <;> simp

theorem mem_nodes_of_mem_childItems {value child node : Json}
    (h : members.lookup "condition" = some value) (hchild : child ∈ childItems members)
    (hnode : node ∈ nodes child) : node ∈ nodes (.object members) := by
  rw [nodes_condition h]
  exact List.mem_cons_of_mem _ (List.mem_flatMap.mpr ⟨child, hchild, hnode⟩)

/-- The members of a node of the definition that is a field rule. -/
def IsFieldNode (definition : Json) (members : List (String × Json)) : Prop :=
  .object members ∈ nodes definition ∧ members.lookup "condition" = none

theorem IsFieldNode.of_mem_childItems {outer : List (String × Json)} {value child : Json}
    (h : IsFieldNode child members) (hvalue : outer.lookup "condition" = some value)
    (hchild : child ∈ childItems outer) : IsFieldNode (.object outer) members :=
  ⟨mem_nodes_of_mem_childItems hvalue hchild h.1, h.2⟩

end Definition

namespace Rule

open Definition

/-- A definition is read alike under two options if its field rules are. -/
theorem ofJson_congr {definition : Json}
    (h : ∀ members, IsFieldNode definition members →
      fieldRuleOf options members = fieldRuleOf options' members) :
    ofJson options definition = ofJson options' definition := by
  induction definition using Definition.induction with
  | object members ih =>
    cases hcondition : members.lookup "condition" with
    | none =>
      rw [ofJson_field hcondition, ofJson_field hcondition,
        h members ⟨mem_nodes_self _, hcondition⟩]
    | some value =>
      have hchildren : (childItems members).mapM (ofJson options) =
          (childItems members).mapM (ofJson options') :=
        mapM_congr fun child hchild => ih child hchild fun inner hinner =>
          h inner (hinner.of_mem_childItems hcondition hchild)
      rw [ofJson_condition hcondition, ofJson_condition hcondition, hchildren]
  | other value hvalue => rw [ofJson_of_not_isObject hvalue, ofJson_of_not_isObject hvalue]

/-- Each field rule of a tree was read from a node of its definition. -/
theorem exists_node_of_mem_leaves {definition : Json} {r : FieldRule} :
    ∀ rule, ofJson options definition = .ok rule → r ∈ rule.leaves →
      ∃ members, IsFieldNode definition members ∧ fieldRuleOf options members = .ok r := by
  induction definition using Definition.induction with
  | object members ih =>
    intro rule h hr
    cases hcondition : members.lookup "condition" with
    | none =>
      obtain ⟨r', hr', rfl⟩ := (ofJson_field_eq_ok_iff hcondition).mp h
      cases List.mem_singleton.mp hr
      exact ⟨members, ⟨mem_nodes_self _, hcondition⟩, hr'⟩
    | some value =>
      obtain ⟨c, children, -, hchildren, rfl⟩ := (ofJson_condition_eq_ok_iff hcondition).mp h
      rw [leaves, leavesAll_eq_flatMap] at hr
      obtain ⟨rule, hmem, hr⟩ := List.mem_flatMap.mp hr
      obtain ⟨child, hchild, hrule⟩ := exists_of_mem_mapM hchildren hmem
      obtain ⟨inner, hinner, hread⟩ := ih child hchild rule hrule hr
      exact ⟨inner, hinner.of_mem_childItems hcondition hchild, hread⟩
  | other value hvalue =>
    intro rule h
    rw [ofJson_of_not_isObject hvalue] at h
    cases h

end Rule

end RecordSieve
