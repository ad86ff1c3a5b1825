/-
RecordSieve.Proofs.Rule.Definition — how a definition is read, one object
at a time.

The reader is four functions that call each other; what they do to an
object is said here once, without the recursion: a condition reads the
objects among its `rules` in order (`ofJson_condition`), anything else is
a field rule (`ofJson_field`), whose parts are read one after the other
(`fieldRuleOf_eq_ok_iff`).  `Definition.induction` is the induction that
goes with it.

Options decide whether a definition is accepted and what its operands
are, and nothing else: two readings of one definition differ at most in
their operands (`bare_ofJson`), so they name the same fields.
-/
import RecordSieve.Proofs.Outcome
import RecordSieve.Rule.Definition

namespace RecordSieve

variable {options options' : RuleOptions} {members : List (String × Json)}

namespace Definition

/-- The definitions of a condition's children: the objects among its `rules`. -/
def childItems (members : List (String × Json)) : List Json :=
  match members.lookup "rules" with
  | some (.array items) => items.filter Json.isObject
  | _ => []

theorem sizeOf_lookup_lt {key : String} {value : Json} (h : members.lookup key = some value) :
    sizeOf value < sizeOf members := by
  induction members with
  | nil => simp at h
  | cons member members ih =>
    obtain ⟨k, v⟩ := member
    rw [List.lookup_cons] at h
    split at h
    · cases h
      simp only [List.cons.sizeOf_spec, Prod.mk.sizeOf_spec]
      omega
    · have := ih h
      simp only [List.cons.sizeOf_spec]
      omega

theorem sizeOf_lt_of_mem_childItems {child : Json} (h : child ∈ childItems members) :
    sizeOf child < sizeOf (Json.object members) := by
  unfold childItems at h
  split at h
  · next items hitems =>
    have hitems := sizeOf_lookup_lt hitems
    have hchild := List.sizeOf_lt_of_mem (List.mem_filter.mp h).1
    simp only [Json.array.sizeOf_spec, Json.object.sizeOf_spec] at *
    omega
  · simp at h

/-- Induction on definitions: an object may use the statement for each of
its child items. -/
theorem induction {motive : Json → Prop}
    (object : ∀ members, (∀ child ∈ childItems members, motive child) → motive (.object members))
    (other : ∀ value : Json, value.isObject = false → motive value) (value : Json) :
    motive value := by
  cases value with
  | object members =>
    exact object members fun child hchild =>
      have := sizeOf_lt_of_mem_childItems hchild
      induction object other child
  | null => exact other _ rfl
  | bool b => exact other _ rfl
  | number n => exact other _ rfl
  | string s => exact other _ rfl
  | array items => exact other _ rfl
termination_by sizeOf value
decreasing_by assumption

/-! ## Field rules -/

/-- The field rule of an object, still without its operand.  Options have
no part in it. -/
def headOf (members : List (String × Json)) : Attempt RuleError FieldRule := do
  let field ← requiredString members "field"
  let typeName ← requiredString members "type"
  let kind ← Attempt.ofOption (.unknownFieldType typeName) (FieldType.ofName? typeName)
  let operatorName ← requiredString members "operator"
  let op ← Attempt.ofOption (.unknownOperator operatorName) (Operator.ofName? operatorName)
  return FieldRule.new field kind op

theorem requiredString_eq_ok_iff {key text : String} :
    requiredString members key = .ok text ↔ members.lookup key = some (.string text) := by
  unfold requiredString
  cases members.lookup key with
  | none => simp [Attempt.refuse]
  | some value => cases value <;> simp [Attempt.refuse]

/-- The parts of a field rule stand under their keys. -/
theorem headOf_eq_ok_iff : headOf members = .ok head ↔ ∃ field typeName kind operatorName op,
    members.lookup "field" = some (.string field) ∧
    members.lookup "type" = some (.string typeName) ∧ FieldType.ofName? typeName = some kind ∧
    members.lookup "operator" = some (.string operatorName) ∧
    Operator.ofName? operatorName = some op ∧ FieldRule.new field kind op = head := by
  simp only [headOf, bind_eq_ok_iff, requiredString_eq_ok_iff, ofOption_eq_ok_iff, pure,
    Except.pure, Except.ok.injEq]
  constructor
  · rintro ⟨field, hfield, typeName, htype, kind, hkind, operatorName, hoperator, op, hop, h⟩
    exact ⟨field, typeName, kind, operatorName, op, hfield, htype, hkind, hoperator, hop, h⟩
  · rintro ⟨field, typeName, kind, operatorName, op, hfield, htype, hkind, hoperator, hop, h⟩
    exact ⟨field, hfield, typeName, htype, kind, hkind, operatorName, hoperator, op, hop, h⟩

theorem fieldRuleOf_eq : fieldRuleOf options members = (headOf members >>= fun r =>
    (r.assign options (members.lookup "value")).mapCause
      (RuleError.valueCoercion r.field (valueText (members.lookup "value")))) := by
  simp only [fieldRuleOf, headOf, bind_assoc, pure_bind]
  rfl

theorem fieldRuleOf_eq_ok_iff {r : FieldRule} :
    fieldRuleOf options members = .ok r ↔ ∃ head operands, headOf members = .ok head ∧
      FieldRule.operandsOf options head.kind (members.lookup "value") = .ok operands ∧
      { head with raw := members.lookup "value", operands := operands } = r := by
  simp only [fieldRuleOf_eq, bind_eq_ok_iff, mapCause_eq_ok_iff, FieldRule.assign, pure,
    Except.pure, Except.ok.injEq]
  constructor
  · rintro ⟨head, hhead, operands, hoperands, hr⟩
    exact ⟨head, operands, hhead, hoperands, hr⟩
  · rintro ⟨head, operands, hhead, hoperands, hr⟩
    exact ⟨head, hhead, operands, hoperands, hr⟩

end Definition

namespace Rule

open Definition

/-! ## Conditions -/

theorem rulesOfItems_eq (items : List Json) :
    rulesOfItems options items = (items.filter Json.isObject).mapM (ofJson options) := by
  induction items with
  | nil => rfl
  | cons item items ih =>
    rw [rulesOfItems, List.filter_cons]
    split
    · rw [List.mapM_cons, ih]
    · exact ih

theorem childrenOf_eq :
    childrenOf options members = (childItems members).mapM (ofJson options) := by
  unfold childItems
  induction members with
  | nil => rfl
  | cons member members ih =>
    obtain ⟨key, value⟩ := member
    rw [childrenOf, List.lookup_cons, BEq.comm]
    cases "rules" == key with
    | false => exact ih
    | true => cases value <;> first | rfl | exact rulesOfItems_eq _

theorem ofJson_condition {value : Json} (h : members.lookup "condition" = some value) :
    ofJson options (.object members) = (do
      let connective ← connectiveOf value
      let children ← (childItems members).mapM (ofJson options)
      return condition connective (isNegated members) children) := by
  rw [ofJson, h, ← childrenOf_eq]

theorem ofJson_field (h : members.lookup "condition" = none) :
    ofJson options (.object members) = (fieldRuleOf options members).map field := by
  rw [ofJson, h]
  cases fieldRuleOf options members <;> rfl

theorem ofJson_condition_eq_ok_iff {value : Json} {rule : Rule}
    (h : members.lookup "condition" = some value) :
    ofJson options (.object members) = .ok rule ↔ ∃ connective children,
      connectiveOf value = .ok connective ∧
      (childItems members).mapM (ofJson options) = .ok children ∧
      condition connective (isNegated members) children = rule := by
  simp only [ofJson_condition h, bind_eq_ok_iff, pure, Except.pure, Except.ok.injEq]
  constructor
  · rintro ⟨connective, hc, children, hchildren, hrule⟩
    exact ⟨connective, children, hc, hchildren, hrule⟩
  · rintro ⟨connective, children, hc, hchildren, hrule⟩
    exact ⟨connective, hc, children, hchildren, hrule⟩

theorem ofJson_field_eq_ok_iff {rule : Rule} (h : members.lookup "condition" = none) :
    ofJson options (.object members) = .ok rule ↔
      ∃ r, fieldRuleOf options members = .ok r ∧ field r = rule := by
  rw [ofJson_field h]
  cases fieldRuleOf options members <;> simp [Except.map]

theorem ofJson_of_not_isObject {value : Json} (h : value.isObject = false) :
    ofJson options value = Attempt.refuse (.invalidShape "rule" "JSON 对象") := by
  cases value <;> first | rfl | simp [Json.isObject] at h

end Rule

/-! ## What options cannot change -/

/-- The rule without its operands. -/
def FieldRule.bare (r : FieldRule) : FieldRule := { r with operands := [] }

namespace Rule

open Definition

mutual

/-- The rule without the operands of its field rules. -/
def bare : Rule → Rule
  | field r => field r.bare
  | condition connective negated children => condition connective negated (bareAll children)

/-- The rules without the operands of their field rules. -/
def bareAll : List Rule → List Rule
  | [] => []
  | rule :: rules => bare rule :: bareAll rules

end

mutual

@[simp] theorem fieldList_bare : ∀ rule : Rule, rule.bare.fieldList = rule.fieldList
  | field r => rfl
  | condition connective negated children => by
    rw [bare, fieldList, fieldList, fieldListAll_bareAll children]

theorem fieldListAll_bareAll : ∀ rules : List Rule,
    fieldListAll (bareAll rules) = fieldListAll rules
  | [] => rfl
  | rule :: rules => by
    rw [bareAll, fieldListAll, fieldListAll, fieldList_bare rule, fieldListAll_bareAll rules]

end

theorem bare_fieldRuleOf {r r' : FieldRule} (h : fieldRuleOf options members = .ok r)
    (h' : fieldRuleOf options' members = .ok r') : r.bare = r'.bare := by
  obtain ⟨head, operands, hhead, -, rfl⟩ := fieldRuleOf_eq_ok_iff.mp h
  obtain ⟨head', operands', hhead', -, rfl⟩ := fieldRuleOf_eq_ok_iff.mp h'
  rw [hhead] at hhead'
  cases hhead'
  rfl

/-- Readings of one list of definitions differ at most in operands if
those of its items do. -/
theorem bareAll_mapM {items : List Json} (hitem : ∀ item ∈ items, ∀ rule rule',
      ofJson options item = .ok rule → ofJson options' item = .ok rule' → rule.bare = rule'.bare) :
    ∀ rules rules', items.mapM (ofJson options) = .ok rules →
      items.mapM (ofJson options') = .ok rules' → bareAll rules = bareAll rules' := by
  induction items with
  | nil =>
    intro rules rules' h h'
    cases h
    cases h'
    rfl
  | cons item items ih =>
    intro rules rules' h h'
    obtain ⟨rule, rest, hrule, hrest, rfl⟩ := mapM_cons_eq_ok_iff.mp h
    obtain ⟨rule', rest', hrule', hrest', rfl⟩ := mapM_cons_eq_ok_iff.mp h'
    rw [bareAll, bareAll, hitem item (List.mem_cons_self ..) rule rule' hrule hrule',
      ih (fun x hx => hitem x (List.mem_cons_of_mem _ hx)) rest rest' hrest hrest']

/-- Two readings of one definition differ at most in their operands. -/
theorem bare_ofJson (definition : Json) : ∀ rule rule', ofJson options definition = .ok rule →
    ofJson options' definition = .ok rule' → rule.bare = rule'.bare := by
  induction definition using Definition.induction with
  | object members ih =>
    intro rule rule' h h'
    cases hcondition : members.lookup "condition" with
    | none =>
      obtain ⟨r, hr, rfl⟩ := (ofJson_field_eq_ok_iff hcondition).mp h
      obtain ⟨r', hr', rfl⟩ := (ofJson_field_eq_ok_iff hcondition).mp h'
      rw [bare, bare, bare_fieldRuleOf hr hr']
    | some value =>
      obtain ⟨c, children, hc, hchildren, rfl⟩ := (ofJson_condition_eq_ok_iff hcondition).mp h
      obtain ⟨c', children', hc', hchildren', rfl⟩ := (ofJson_condition_eq_ok_iff hcondition).mp h'
      rw [hc] at hc'
      cases hc'
      rw [bare, bare, bareAll_mapM ih children children' hchildren hchildren']
  | other value hvalue =>
    intro rule rule' h
    rw [ofJson_of_not_isObject hvalue] at h
    cases h

/-- Under all options that accept it, a definition names the same fields. -/
theorem fields_ofJson {definition : Json} {rule rule' : Rule}
    (h : ofJson options definition = .ok rule) (h' : ofJson options' definition = .ok rule') :
    rule.fields = rule'.fields := by
  have hbare := bare_ofJson definition rule rule' h h'
  rw [fields, fields, ← fieldList_bare rule, ← fieldList_bare rule', hbare]

end Rule

end RecordSieve
