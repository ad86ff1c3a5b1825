/-
RecordSieve.Proofs.Rule.LocaleUse — where reading uses the locale.

Of the options, reading uses the locale alone, and that for three types
only: instants, dates and durations (`FieldType.usesLocale`).  A
definition without a leaf of such a type is read alike in every locale,
and any definition is read alike under all comparison flags
(`ofJson_eq_of_locale`).

What is read has the type it was read as, so that the operands of a field
rule in a tree are of the rule's own type (`kind_of_mem_operands`).
-/
import RecordSieve.Proofs.Rule.Nodes

namespace RecordSieve

/-- The types whose texts are read by the conventions of a locale. -/
def FieldType.usesLocale : FieldType → Bool
  | dateTime | date | duration => true
  | string | integer | double | boolean => false

variable {options options' : RuleOptions} {kind : FieldType}

/-! ## Values -/

section Value

variable {value : Json} {v : FieldValue}

theorem Coercion.present_congr (h : kind.usesLocale = true → options.locale = options'.locale) :
    present options kind value = present options' kind value := by
  cases kind with
  | dateTime | date | duration => simp only [present, h rfl]
  | string | integer | double | boolean => simp only [present]

theorem coerce_congr (h : kind.usesLocale = true → options.locale = options'.locale) :
    coerce options kind value = coerce options' kind value := by
  rw [coerce, coerce, Coercion.present_congr h]

theorem coerceData_congr (h : kind.usesLocale = true → options.locale = options'.locale) :
    coerceData options kind value = coerceData options' kind value := by
  rw [coerceData, coerceData, coerce_congr h]

theorem Coercion.kind_of_present (h : present options kind value = .ok v) : v.kind = kind := by
  cases kind with
  | string | integer | double | boolean =>
    obtain ⟨_, -, hv⟩ := bind_eq_ok_iff.mp h
    cases hv
    rfl
  | dateTime | date | duration =>
    obtain ⟨_, -, h⟩ := bind_eq_ok_iff.mp h
    obtain ⟨_, -, hv⟩ := bind_eq_ok_iff.mp h
    cases hv
    rfl

theorem kind_of_coerce (h : coerce options kind value = .ok (some v)) : v.kind = kind := by
  rw [coerce] at h
  split at h
  · cases h
  · obtain ⟨w, hw, hv⟩ := bind_eq_ok_iff.mp h
    cases hv
    exact Coercion.kind_of_present hw

theorem kind_of_coerceData (h : coerceData options kind value = .ok (some v)) : v.kind = kind := by
  rw [coerceData] at h
  rcases hcoerce : coerce options kind value with ⟨cause | abort⟩ | found
  · rw [hcoerce] at h; cases h
  · rw [hcoerce] at h; cases h
  · rw [hcoerce] at h
    exact kind_of_coerce (hcoerce.trans (congrArg Except.ok (Except.ok.inj h)))

end Value

/-! ## Operands -/

namespace FieldRule

variable {value : Option Json} {operands : List (Option FieldValue)} {v : FieldValue}

theorem operandsOf_congr (h : kind.usesLocale = true → options.locale = options'.locale) :
    operandsOf options kind value = operandsOf options' kind value := by
  have hcoerce : coerce options kind = coerce options' kind := funext fun _ => coerce_congr h
  unfold operandsOf
  rw [hcoerce]

/-- The operands of a type are of that type. -/
theorem kind_of_mem_operandsOf (h : operandsOf options kind value = .ok operands)
    (hv : some v ∈ operands) : v.kind = kind := by
  unfold operandsOf at h
  split at h
  · cases h
    cases hv
  · cases h
    simp at hv
  · obtain ⟨item, -, hitem⟩ := exists_of_mem_mapM h hv
    exact kind_of_coerce hitem
  · obtain ⟨w, hw, hoperands⟩ := bind_eq_ok_iff.mp h
    cases hoperands
    cases List.mem_singleton.mp hv
    exact kind_of_coerce hw

end FieldRule

/-! ## Definitions -/

namespace Definition

/-- The definition has a leaf of the type: a field rule whose `type` names it. -/
def HasLeaf (kind : FieldType) (definition : Json) : Prop :=
  ∃ members name, IsFieldNode definition members ∧
    members.lookup "type" = some (.string name) ∧ FieldType.ofName? name = some kind

variable {members : List (String × Json)} {head r : FieldRule}

theorem hasLeaf_field_iff (h : members.lookup "condition" = none) :
    HasLeaf kind (.object members) ↔
      ∃ name, members.lookup "type" = some (.string name) ∧ FieldType.ofName? name = some kind := by
  constructor
  · rintro ⟨inner, name, ⟨hnode, -⟩, htype, hname⟩
    rw [nodes_field h] at hnode
    cases List.mem_singleton.mp hnode
    exact ⟨name, htype, hname⟩
  · rintro ⟨name, htype, hname⟩
    exact ⟨members, name, ⟨mem_nodes_self _, h⟩, htype, hname⟩

theorem hasLeaf_of_headOf {definition : Json} (hnode : IsFieldNode definition members)
    (h : headOf members = .ok head) : HasLeaf head.kind definition := by
  obtain ⟨field, typeName, kind, operatorName, op, -, htype, hkind, -, -, rfl⟩ :=
    headOf_eq_ok_iff.mp h
  exact ⟨members, typeName, hnode, htype, hkind⟩

theorem fieldRuleOf_congr (h : ∀ head : FieldRule, headOf members = .ok head →
      head.kind.usesLocale = true → options.locale = options'.locale) :
    fieldRuleOf options members = fieldRuleOf options' members := by
  rw [fieldRuleOf_eq, fieldRuleOf_eq]
  cases hhead : headOf members with
  | error failure => simp only [bind, Except.bind]
  | ok head =>
    have hassign (value : Option Json) : head.assign options value = head.assign options' value := by
      rw [FieldRule.assign, FieldRule.assign, FieldRule.operandsOf_congr (h head hhead)]
    simp only [bind, Except.bind, hassign]

end Definition

namespace Rule

open Definition

variable {definition : Json} {rule : Rule} {r : FieldRule}

/-- Without a leaf of a type that uses it, the locale has no part in reading. -/
theorem ofJson_eq_of_locale (h : ∀ kind, HasLeaf kind definition → kind.usesLocale = true →
      options.locale = options'.locale) :
    ofJson options definition = ofJson options' definition :=
  ofJson_congr fun _ hnode => fieldRuleOf_congr fun head hhead =>
    h head.kind (hasLeaf_of_headOf hnode hhead)

/-- The type of a field rule in a tree is the type of a leaf of its definition. -/
theorem hasLeaf_of_mem_leaves (h : ofJson options definition = .ok rule) (hr : r ∈ rule.leaves) :
    HasLeaf r.kind definition := by
  obtain ⟨members, hnode, hread⟩ := exists_node_of_mem_leaves rule h hr
  obtain ⟨head, operands, hhead, -, rfl⟩ := fieldRuleOf_eq_ok_iff.mp hread
  exact (hasLeaf_of_headOf hnode hhead : HasLeaf head.kind definition)

/-- The operands of a field rule in a tree are of the rule's type. -/
theorem kind_of_mem_operands {v : FieldValue} (h : ofJson options definition = .ok rule)
    (hr : r ∈ rule.leaves) (hv : some v ∈ r.operands) : v.kind = r.kind := by
  obtain ⟨members, -, hread⟩ := exists_node_of_mem_leaves rule h hr
  obtain ⟨head, operands, -, hoperands, rfl⟩ := fieldRuleOf_eq_ok_iff.mp hread
  exact FieldRule.kind_of_mem_operandsOf hoperands hv

end Rule

end RecordSieve
