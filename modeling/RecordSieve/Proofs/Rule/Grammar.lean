/-
RecordSieve.Proofs.Rule.Grammar — the grammar of definitions, and the
first fault of a definition outside it.

`Accepted` is the grammar: conditions of a named connective whose child
items are accepted, and field rules of a field, a type, an operator and
an operand of that type.  A definition in the grammar is read as the one
tree that mirrors it (`Rule.Mirrors`).

Any other definition has a node with a fault.  `faultOf` finds the fault
of a node without its child items, checking one part after the other, and
the failure of reading is that of the first node with one, in the order
of `nodes`: a condition before its child items, and these from left to
right.
-/
import RecordSieve.Proofs.Rule.Names
import RecordSieve.Proofs.Rule.LocaleUse

namespace RecordSieve

open Text

variable {options : RuleOptions} {members : List (String × Json)}

namespace Definition

/-! ## Operands -/

/-- The values that an operand consists of: the items of an array, or the
value itself. -/
def operandItems : Option Json → List Json
  | none => []
  | some (.array items) => items
  | some value => [value]

/-- The value is one of the type, or stands for an absent one. -/
def Coercible (options : RuleOptions) (kind : FieldType) (value : Json) : Prop :=
  ∃ v, coerce options kind value = .ok v

instance (options : RuleOptions) (kind : FieldType) (value : Json) :
    Decidable (Coercible options kind value) :=
  decidable_of_iff ((coerce options kind value).toBool = true) <| by
    rw [Coercible]
    cases coerce options kind value <;> simp [Except.toBool]

/-- An operand fails as its first item that fails. -/
theorem failure?_operandsOf {kind : FieldType} {value : Option Json} :
    failure? (FieldRule.operandsOf options kind value) =
      (operandItems value).findSome? fun item => failure? (coerce options kind item) := by
  have hscalar (item : Json) : failure? (do return [← coerce options kind item]) =
      [item].findSome? fun item => failure? (coerce options kind item) := by
    rw [List.findSome?_cons]
    cases coerce options kind item <;> rfl
  rcases value with _ | value
  · rfl
  · cases value with
    | array items =>
      cases items with
      | nil => rfl
      | cons item items => exact failure?_mapM
    | _ => exact hscalar _

theorem exists_operandsOf_iff {kind : FieldType} {value : Option Json} :
    (∃ operands, FieldRule.operandsOf options kind value = .ok operands) ↔
      ∀ item ∈ operandItems value, Coercible options kind item := by
  rw [← failure?_eq_none_iff, failure?_operandsOf, List.findSome?_eq_none_iff]
  exact forall₂_congr fun item _ => failure?_eq_none_iff

/-! ## The grammar -/

/-- The definitions that are read. -/
inductive Accepted (options : RuleOptions) : Json → Prop where
  /-- A condition; items of its `rules` that are no objects are passed over. -/
  | condition {members : List (String × Json)} {name : String} {connective : Connective} :
      members.lookup "condition" = some (.string name) →
      sameName name connective.name = true →
      (∀ child ∈ childItems members, Accepted options child) →
      Accepted options (.object members)
  /-- A field rule; one without `value` has an operand of no items. -/
  | field {members : List (String × Json)} {field typeName operatorName : String}
      {kind : FieldType} {op : Operator} :
      members.lookup "condition" = none →
      members.lookup "field" = some (.string field) →
      members.lookup "type" = some (.string typeName) →
      sameName kind.name typeName = true →
      members.lookup "operator" = some (.string operatorName) →
      op.Spells operatorName →
      (∀ item ∈ operandItems (members.lookup "value"), Coercible options kind item) →
      Accepted options (.object members)

theorem connectiveOf_eq_ok_iff {value : Json} {connective : Connective} :
    connectiveOf value = .ok connective ↔
      ∃ name, value = .string name ∧ sameName name connective.name = true := by
  cases value with
  | string name => simp [connectiveOf, ofOption_eq_ok_iff, Connective.ofName?_eq_some_iff]
  | _ => simp [connectiveOf, Attempt.refuse]

theorem accepted_condition_iff {value : Json} (h : members.lookup "condition" = some value) :
    Accepted options (.object members) ↔
      (∃ connective, connectiveOf value = .ok connective) ∧
        ∀ child ∈ childItems members, Accepted options child := by
  constructor
  · intro haccepted
    cases haccepted with
    | condition hvalue hname hchildren =>
      cases h.symm.trans hvalue
      exact ⟨⟨_, connectiveOf_eq_ok_iff.mpr ⟨_, rfl, hname⟩⟩, hchildren⟩
    | field hnone => cases h.symm.trans hnone
  · rintro ⟨⟨connective, hc⟩, hchildren⟩
    obtain ⟨name, rfl, hname⟩ := connectiveOf_eq_ok_iff.mp hc
    exact .condition h hname hchildren

theorem accepted_field_iff (h : members.lookup "condition" = none) :
    Accepted options (.object members) ↔ ∃ r, fieldRuleOf options members = .ok r := by
  constructor
  · intro haccepted
    cases haccepted with
    | condition hvalue => cases h.symm.trans hvalue
    | field _ hfield htype hkind hoperator hop hitems =>
      obtain ⟨operands, hoperands⟩ := exists_operandsOf_iff.mpr hitems
      have hhead := headOf_eq_ok_iff.mpr ⟨_, _, _, _, _, hfield, htype,
        FieldType.ofName?_eq_some_iff.mpr hkind, hoperator,
        Operator.ofName?_eq_some_iff.mpr hop, rfl⟩
      exact ⟨_, fieldRuleOf_eq_ok_iff.mpr ⟨_, operands, hhead, hoperands, rfl⟩⟩
  · rintro ⟨r, hr⟩
    obtain ⟨head, operands, hhead, hoperands, -⟩ := fieldRuleOf_eq_ok_iff.mp hr
    obtain ⟨field, typeName, kind, operatorName, op, hfield, htype, hkind, hoperator, hop, rfl⟩ :=
      headOf_eq_ok_iff.mp hhead
    exact .field h hfield htype (FieldType.ofName?_eq_some_iff.mp hkind) hoperator
      (Operator.ofName?_eq_some_iff.mp hop) (exists_operandsOf_iff.mp ⟨operands, hoperands⟩)

/-! ## Faults -/

/-- The cause, if nothing was found. -/
def unlessFound {α : Type} (cause : RuleError) : Option α → Option RuleError
  | some _ => none
  | none => some cause

/-- The fault of the string under a key: there is none, or another value,
or the string is at fault. -/
def stringFault (members : List (String × Json)) (key : String)
    (fault : String → Option RuleError) : Option (Failure RuleError) :=
  match members.lookup key with
  | none => some (.refused (.missingField key))
  | some (.string s) => (fault s).map .refused
  | some _ => some (.refused (.invalidShape key "字符串"))

/-- The fault of the value of `condition`. -/
def connectiveFault : Json → Option (Failure RuleError)
  | .string name => (unlessFound (.unknownConnective name) (Connective.ofName? name)).map .refused
  | value => some (.refused (.unknownConnective value.text))

/-- The fault of the operand of a field rule: that of its first item at fault. -/
def operandFault (options : RuleOptions) (members : List (String × Json)) :
    Option (Failure RuleError) := do
  let .string field ← members.lookup "field" | none
  let .string typeName ← members.lookup "type" | none
  let kind ← FieldType.ofName? typeName
  let value := members.lookup "value"
  let failure ← (operandItems value).findSome? fun item => failure? (coerce options kind item)
  return failure.map (RuleError.valueCoercion field (valueText value))

/-- The fault of a field rule: that of its field, type, operator or
operand, the first of them that has one. -/
def fieldFault (options : RuleOptions) (members : List (String × Json)) :
    Option (Failure RuleError) :=
  (stringFault members "field" fun _ => none).or <|
  (stringFault members "type" fun name =>
    unlessFound (.unknownFieldType name) (FieldType.ofName? name)).or <|
  (stringFault members "operator" fun name =>
    unlessFound (.unknownOperator name) (Operator.ofName? name)).or <|
  operandFault options members

/-- The fault of a node without its child items. -/
def faultOf (options : RuleOptions) : Json → Option (Failure RuleError)
  | .object members =>
    match members.lookup "condition" with
    | some value => connectiveFault value
    | none => fieldFault options members
  | _ => some (.refused (.invalidShape "rule" "JSON 对象"))

theorem failure?_connectiveOf (value : Json) :
    failure? (connectiveOf value) = connectiveFault value := by
  cases value with
  | string name =>
    rw [connectiveOf, connectiveFault]
    cases Connective.ofName? name <;> rfl
  | _ => rfl

theorem failure?_requiredString (key : String) :
    failure? (requiredString members key) = stringFault members key fun _ => none := by
  unfold requiredString stringFault
  cases members.lookup key with
  | none => rfl
  | some value => cases value <;> rfl

/-- A required string that names something, and what comes after it. -/
theorem failure?_bind_named {α β : Type} {key : String} {cause : String → RuleError}
    {find : String → Option α} {f : String → α → Attempt RuleError β}
    {after : Option (Failure RuleError)} (h : ∀ s a, failure? (f s a) = after) :
    failure? (do
      let s ← requiredString members key
      let a ← Attempt.ofOption (cause s) (find s)
      f s a) = (stringFault members key fun s => unlessFound (cause s) (find s)).or after := by
  unfold requiredString stringFault
  cases members.lookup key with
  | none => rfl
  | some value =>
    cases value with
    | string s =>
      show failure? (Attempt.ofOption (cause s) (find s) >>= f s) =
        ((unlessFound (cause s) (find s)).map .refused).or after
      cases find s with
      | none => rfl
      | some a => exact h s a
    | _ => rfl

theorem failure?_headOf : failure? (headOf members) =
    (stringFault members "field" fun _ => none).or
      ((stringFault members "type" fun name =>
        unlessFound (.unknownFieldType name) (FieldType.ofName? name)).or
        (stringFault members "operator" fun name =>
          unlessFound (.unknownOperator name) (Operator.ofName? name))) := by
  rw [headOf, ← failure?_requiredString]
  refine failure?_bind fun field _ => failure?_bind_named fun typeName kind => ?_
  refine Eq.trans (failure?_bind_named fun operatorName op => ?_) Option.or_none
  rfl

/-- With a field and a type there, the operand is at fault or the rule is read. -/
theorem failure?_assign {head : FieldRule} (h : headOf members = .ok head) :
    failure? ((head.assign options (members.lookup "value")).mapCause
      (RuleError.valueCoercion head.field (valueText (members.lookup "value")))) =
        operandFault options members := by
  obtain ⟨field, typeName, kind, operatorName, op, hfield, htype, hkind, -, -, rfl⟩ :=
    headOf_eq_ok_iff.mp h
  have hoperands : failure? ((FieldRule.new field kind op).assign options
      (members.lookup "value")) = (operandItems (members.lookup "value")).findSome?
        fun item => failure? (coerce options kind item) :=
    failure?_bind_pure.trans failure?_operandsOf
  rw [failure?_mapCause, hoperands, operandFault, hfield, htype]
  dsimp only [bind, Option.bind_some]
  rw [hkind, Option.bind_some]
  cases (operandItems (members.lookup "value")).findSome?
    fun item => failure? (coerce options kind item) <;> rfl

theorem failure?_fieldRuleOf :
    failure? (fieldRuleOf options members) = fieldFault options members := by
  rw [fieldRuleOf_eq, failure?_bind fun head hhead => failure?_assign hhead, failure?_headOf,
    fieldFault, Option.or_assoc, Option.or_assoc]

/-- Reading fails as the first node that has a fault. -/
theorem failure?_ofJson (definition : Json) :
    failure? (Rule.ofJson options definition) =
      (nodes definition).findSome? (faultOf options) := by
  induction definition using Definition.induction with
  | object members ih =>
    cases hcondition : members.lookup "condition" with
    | none =>
      rw [Rule.ofJson_field hcondition, failure?_map, failure?_fieldRuleOf, nodes_field hcondition]
      simp [faultOf, hcondition]
    | some value =>
      have hfault : faultOf options (.object members) = connectiveFault value := by
        rw [faultOf, hcondition]
      have hchildren : failure? ((childItems members).mapM (Rule.ofJson options)) =
          ((childItems members).flatMap nodes).findSome? (faultOf options) := by
        rw [failure?_mapM, findSome?_flatMap]
        exact findSome?_congr ih
      rw [Rule.ofJson_condition hcondition, nodes_condition hcondition, List.findSome?_cons,
        failure?_bind fun _ _ => failure?_bind_pure.trans hchildren, failure?_connectiveOf, hfault]
      cases connectiveFault value <;> rfl
  | other value hvalue =>
    rw [Rule.ofJson_of_not_isObject hvalue, nodes_of_not_isObject hvalue]
    cases value <;> first | rfl | cases hvalue

theorem isNegated_eq_true_iff :
    isNegated members = true ↔ members.lookup "not" = some (.bool true) := by
  unfold isNegated
  cases members.lookup "not" with
  | none => simp
  | some value => cases value <;> simp

theorem accepted_iff (definition : Json) :
    (∃ rule, Rule.ofJson options definition = .ok rule) ↔ Accepted options definition := by
  induction definition using Definition.induction with
  | object members ih =>
    cases hcondition : members.lookup "condition" with
    | none =>
      rw [accepted_field_iff hcondition, ← failure?_eq_none_iff, Rule.ofJson_field hcondition,
        failure?_map, failure?_eq_none_iff]
    | some value =>
      rw [accepted_condition_iff hcondition, ← failure?_eq_none_iff,
        Rule.ofJson_condition hcondition, failure?_bind fun _ _ => failure?_bind_pure,
        Option.or_eq_none_iff, failure?_eq_none_iff, failure?_mapM, List.findSome?_eq_none_iff]
      refine and_congr_right fun _ => forall₂_congr fun child hchild => ?_
      rw [failure?_eq_none_iff, ih child hchild]
  | other value hvalue =>
    rw [Rule.ofJson_of_not_isObject hvalue]
    constructor
    · rintro ⟨rule, h⟩
      cases h
    · intro h
      cases h <;> cases hvalue

end Definition

open Definition

/-! ## Trees -/

/-- The parts of the rule stand under their keys, and its operands are
what the value is read as. -/
structure FieldRule.Mirrors (options : RuleOptions) (r : FieldRule)
    (members : List (String × Json)) : Prop where
  field : members.lookup "field" = some (.string r.field)
  kind : ∃ name, members.lookup "type" = some (.string name) ∧ sameName r.kind.name name = true
  operator : ∃ name, members.lookup "operator" = some (.string name) ∧ r.operator.Spells name
  raw : r.raw = members.lookup "value"
  operands : operandsOf options r.kind r.raw = .ok r.operands

theorem FieldRule.mirrors_iff {r : FieldRule} :
    fieldRuleOf options members = .ok r ↔ r.Mirrors options members := by
  rw [fieldRuleOf_eq_ok_iff]
  constructor
  · rintro ⟨head, operands, hhead, hoperands, rfl⟩
    obtain ⟨field, typeName, kind, operatorName, op, hfield, htype, hkind, hoperator, hop, rfl⟩ :=
      headOf_eq_ok_iff.mp hhead
    have hop' := Operator.ofName?_eq_some_iff.mp hop
    rw [← op.operator_split] at hop'
    exact ⟨hfield, ⟨typeName, htype, FieldType.ofName?_eq_some_iff.mp hkind⟩,
      ⟨operatorName, hoperator, hop'⟩, rfl, hoperands⟩
  · rintro ⟨hfield, ⟨typeName, htype, hkind⟩, ⟨operatorName, hoperator, hop⟩, hraw, hoperands⟩
    have hhead := headOf_eq_ok_iff.mpr ⟨_, _, _, _, _, hfield, htype,
      FieldType.ofName?_eq_some_iff.mpr hkind, hoperator,
      Operator.ofName?_eq_some_iff.mpr hop, rfl⟩
    rw [hraw] at hoperands
    refine ⟨_, r.operands, hhead, hoperands, ?_⟩
    rw [new, r.split_operator, ← hraw]

namespace Rule

mutual

/-- The tree has the definition's shape: a field rule for a field rule,
and for a condition one of the same connective, negated if `not` is true,
with a tree for each child item, in order. -/
def Mirrors (options : RuleOptions) : Rule → Json → Prop
  | field r, .object members => members.lookup "condition" = none ∧ r.Mirrors options members
  | condition connective negated children, .object members =>
    (∃ name, members.lookup "condition" = some (.string name) ∧
      sameName name connective.name = true) ∧
    (negated = true ↔ members.lookup "not" = some (.bool true)) ∧
    MirrorsAll options children (childItems members)
  | _, _ => False

/-- The trees have the shapes of the definitions, one for one. -/
def MirrorsAll (options : RuleOptions) : List Rule → List Json → Prop
  | [], [] => True
  | rule :: rules, item :: items => Mirrors options rule item ∧ MirrorsAll options rules items
  | _, _ => False

end

theorem mapM_eq_ok_iff_mirrorsAll {items : List Json}
    (h : ∀ item ∈ items, ∀ rule, ofJson options item = .ok rule ↔ rule.Mirrors options item) :
    ∀ rules, items.mapM (ofJson options) = .ok rules ↔ MirrorsAll options rules items := by
  induction items with
  | nil =>
    intro rules
    cases rules <;> simp [MirrorsAll, pure, Except.pure]
  | cons item items ih =>
    obtain ⟨hitem, hitems⟩ := List.forall_mem_cons.mp h
    intro rules
    rw [mapM_cons_eq_ok_iff]
    cases rules with
    | nil => simp [MirrorsAll]
    | cons rule rules =>
      rw [MirrorsAll, ← hitem, ← ih hitems]
      simp

/-- A definition is read as the tree that mirrors it. -/
theorem ofJson_eq_ok_iff_mirrors (definition : Json) :
    ∀ rule, ofJson options definition = .ok rule ↔ rule.Mirrors options definition := by
  induction definition using Definition.induction with
  | object members ih =>
    intro rule
    cases hcondition : members.lookup "condition" with
    | none =>
      rw [ofJson_field_eq_ok_iff hcondition]
      cases rule with
      | field r => simp [Mirrors, hcondition, FieldRule.mirrors_iff]
      | condition connective negated children => simp [Mirrors, hcondition]
    | some value =>
      rw [ofJson_condition_eq_ok_iff hcondition]
      cases rule with
      | field r => simp [Mirrors, hcondition]
      | condition connective negated children =>
        rw [Mirrors, ← mapM_eq_ok_iff_mirrorsAll ih, hcondition, ← isNegated_eq_true_iff,
          ← Bool.eq_iff_iff]
        constructor
        · rintro ⟨_, _, hc, hchildren, h⟩
          cases h
          obtain ⟨name, rfl, hname⟩ := connectiveOf_eq_ok_iff.mp hc
          exact ⟨⟨name, rfl, hname⟩, rfl, hchildren⟩
        · rintro ⟨⟨name, hvalue, hname⟩, rfl, hchildren⟩
          have hc := connectiveOf_eq_ok_iff.mpr ⟨name, Option.some.inj hvalue, hname⟩
          exact ⟨connective, children, hc, hchildren, rfl⟩
  | other value hvalue =>
    intro rule
    rw [ofJson_of_not_isObject hvalue]
    cases value with
    | object members => cases hvalue
    | _ => cases rule <;> simp [Mirrors, Attempt.refuse]

/-- A definition is accepted exactly if it is in the grammar; it is then
read as the tree that mirrors it.  Otherwise reading fails as the first
node with a fault. -/
theorem ofJson_grammar (options : RuleOptions) (definition : Json) :
    ((∃ rule, ofJson options definition = .ok rule) ↔ Accepted options definition) ∧
    (∀ rule, ofJson options definition = .ok rule ↔ rule.Mirrors options definition) ∧
    ∀ failure, ofJson options definition = .error failure ↔
      Reaches (faultOf options · = none) (faultOf options · = some failure) (nodes definition) := by
  refine ⟨accepted_iff definition, ofJson_eq_ok_iff_mirrors definition, fun failure => ?_⟩
  rw [← findSome?_eq_some_iff_reaches, ← failure?_ofJson, failure?_eq_some_iff]

end Rule

end RecordSieve
