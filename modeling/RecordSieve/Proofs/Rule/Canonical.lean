/-
RecordSieve.Proofs.Rule.Canonical — the canonical definition of a rule.

A tree no longer knows how its definition spelled a name, which items
were passed over or which keys meant nothing.  What it does know can be
written down as a definition again (`Rule.define`).  That definition
stands for every one that the tree was read from: under any options the
two are read alike, as the same tree or with the same failure
(`ofJson_define`).  Raw values are the reason, for they stay in the tree
beside the operands, and nothing else in a definition is read by the
options.
-/
import RecordSieve.Proofs.Rule.Names
import RecordSieve.Proofs.Session.Run

namespace RecordSieve

open Definition

/-! ## Definitions of rules -/

/-- The members of the field rule's definition: its parts as they are
shown, and the raw value if there is one. -/
def FieldRule.members (r : FieldRule) : List (String × Json) :=
  [("field", .string r.field), ("operator", .string r.operator.name),
    ("type", .string r.kind.name)] ++ r.raw.toList.map fun value => ("value", value)

/-- The members of the definition of a condition. -/
def conditionMembers (connective : Connective) (negated : Bool) (rules : List Json) :
    List (String × Json) :=
  [("condition", .string connective.name), ("not", .bool negated), ("rules", .array rules)]

namespace Rule

mutual

/-- The canonical definition of a rule. -/
def define : Rule → Json
  | field r => .object r.members
  | condition connective negated children =>
    .object (conditionMembers connective negated (defineAll children))

/-- The canonical definitions of several rules. -/
def defineAll : List Rule → List Json
  | [] => []
  | rule :: rules => define rule :: defineAll rules

end

end Rule

/-! ## Names -/

theorem Connective.ofName?_name (connective : Connective) :
    ofName? connective.name = some connective :=
  ofName?_eq_some_iff.mpr (Text.equalIgnoringCase_refl _)

theorem FieldType.ofName?_name (kind : FieldType) : ofName? kind.name = some kind :=
  ofName?_eq_some_iff.mpr (Text.equalIgnoringCase_refl _)

theorem Operator.ofName?_name (op : Operator) : ofName? op.name = some op := by
  have hletters : ∀ op ∈ all, lettersOf op.name = Text.lowerAscii op.name.toList := by
    decide +kernel
  exact ofName?_eq_some_iff.mpr (hletters op (mem_all op))

/-! ## Field rules -/

section

variable {options : RuleOptions} {members : List (String × Json)} {r : FieldRule}

theorem FieldRule.lookup_value : r.members.lookup "value" = r.raw := by
  rw [FieldRule.members]
  cases r.raw <;> rfl

theorem FieldRule.lookup_condition : r.members.lookup "condition" = none := by
  rw [FieldRule.members]
  cases r.raw <;> rfl

/-- Under their own names the parts of a rule are read back. -/
theorem FieldRule.headOf_members : headOf r.members = .ok (new r.field r.kind r.operator) :=
  headOf_eq_ok_iff.mpr ⟨r.field, r.kind.name, r.kind, r.operator.name, r.operator, rfl, rfl,
    r.kind.ofName?_name, rfl, r.operator.ofName?_name, rfl⟩

/-- What was read of a field rule is in the tree: its parts, and the raw value. -/
theorem parts_of_fieldRuleOf (h : fieldRuleOf options members = .ok r) :
    headOf members = .ok (FieldRule.new r.field r.kind r.operator) ∧
      members.lookup "value" = r.raw := by
  obtain ⟨head, operands, hhead, -, rfl⟩ := fieldRuleOf_eq_ok_iff.mp h
  obtain ⟨field, _, kind, _, op, -, -, -, -, -, rfl⟩ := headOf_eq_ok_iff.mp hhead
  have hop : (FieldRule.new field kind op).operator = op := op.operator_split
  refine ⟨hhead.trans ?_, rfl⟩
  exact congrArg (fun o => Except.ok (FieldRule.new field kind o)) hop.symm

theorem fieldRuleOf_members (h : fieldRuleOf options members = .ok r) (other : RuleOptions) :
    fieldRuleOf other r.members = fieldRuleOf other members := by
  obtain ⟨hhead, hvalue⟩ := parts_of_fieldRuleOf h
  rw [fieldRuleOf_eq, fieldRuleOf_eq, FieldRule.headOf_members, hhead, FieldRule.lookup_value,
    hvalue]

end

/-! ## Conditions -/

namespace Rule

theorem isObject_define (rule : Rule) : rule.define.isObject = true := by
  cases rule <;> rfl

theorem mem_defineAll {item : Json} {rules : List Rule} (h : item ∈ defineAll rules) :
    item.isObject = true := by
  induction rules with
  | nil => cases h
  | cons rule rules ih =>
    rcases List.mem_cons.mp h with rfl | h
    · exact rule.isObject_define
    · exact ih h

theorem childItems_conditionMembers (connective : Connective) (negated : Bool)
    (rules : List Rule) :
    childItems (conditionMembers connective negated (defineAll rules)) = defineAll rules :=
  List.filter_eq_self.mpr fun _ => mem_defineAll

/-- Items are read as their canonical definitions are, if each of them is. -/
theorem mapM_defineAll {options other : RuleOptions} {items : List Json}
    (hitem : ∀ item ∈ items, ∀ rule, ofJson options item = .ok rule →
      ofJson other rule.define = ofJson other item) :
    ∀ rules, items.mapM (ofJson options) = .ok rules →
      (defineAll rules).mapM (ofJson other) = items.mapM (ofJson other) := by
  induction items with
  | nil =>
    intro rules h
    cases h
    rfl
  | cons item items ih =>
    intro rules h
    obtain ⟨rule, rest, hrule, hrest, rfl⟩ := mapM_cons_eq_ok_iff.mp h
    obtain ⟨hfirst, hitems⟩ := List.forall_mem_cons.mp hitem
    rw [defineAll, List.mapM_cons, List.mapM_cons, hfirst rule hrule, ih hitems rest hrest]

/-- Under any options a definition is read as the canonical one is of the
tree that it was read as, under whichever options. -/
theorem ofJson_define {options : RuleOptions} (definition : Json) :
    ∀ rule, ofJson options definition = .ok rule →
      ∀ other, ofJson other rule.define = ofJson other definition := by
  induction definition using Definition.induction with
  | object members ih =>
    intro rule h other
    cases hcondition : members.lookup "condition" with
    | none =>
      obtain ⟨r, hr, rfl⟩ := (ofJson_field_eq_ok_iff hcondition).mp h
      rw [define, ofJson_field hcondition, ofJson_field FieldRule.lookup_condition,
        fieldRuleOf_members hr]
    | some value =>
      obtain ⟨connective, children, hc, hchildren, rfl⟩ :=
        (ofJson_condition_eq_ok_iff hcondition).mp h
      have hname : connectiveOf (.string connective.name) = .ok connective := by
        rw [connectiveOf, connective.ofName?_name]
        rfl
      have hrest := mapM_defineAll (fun item hitem rule hrule => ih item hitem rule hrule other)
        children hchildren
      rw [define, ofJson_condition rfl, ofJson_condition hcondition, hname, hc,
        childItems_conditionMembers, hrest]
      rfl
  | other value hvalue =>
    intro rule h
    rw [ofJson_of_not_isObject hvalue] at h
    cases h

end Rule

/-! ## Sessions -/

namespace Session

/-- The session with another definition, which is read only when options are set. -/
def withDefinition (s : Session) (definition : Json) : Session :=
  { s with definition := definition }

variable {s : Session} {definition : Json}

theorem withOptions_withDefinition {chosen : RuleOptions}
    (h : Rule.ofJson chosen definition = Rule.ofJson chosen s.definition) :
    (s.withDefinition definition).withOptions chosen =
      (s.withOptions chosen).map (·.withDefinition definition) := by
  rw [withOptions, withOptions, withDefinition, h]
  cases Rule.ofJson chosen s.definition <;> rfl

/-- A step answers the same for a definition that is always read alike,
and stays with it. -/
theorem perform_withDefinition
    (h : ∀ other, Rule.ofJson other definition = Rule.ofJson other s.definition) (op : Operation) :
    ((s.withDefinition definition).perform op).answer = (s.perform op).answer ∧
    ((s.withDefinition definition).perform op).session =
      (s.perform op).session.withDefinition definition ∧
    (s.perform op).session.definition = s.definition := by
  cases op with
  | setOptions chosen =>
    rw [perform, perform, withOptions_withDefinition (h chosen)]
    cases hw : s.withOptions chosen with
    | error failure => exact ⟨rfl, rfl, rfl⟩
    | ok s' =>
      obtain ⟨root, -, hs'⟩ := bind_eq_ok_iff.mp hw
      cases hs'
      exact ⟨rfl, rfl, rfl⟩
  | _ => exact ⟨rfl, rfl, rfl⟩

theorem answers_withDefinition
    (h : ∀ other, Rule.ofJson other definition = Rule.ofJson other s.definition)
    (ops : List Operation) :
    ((s.withDefinition definition).run ops).answers = (s.run ops).answers := by
  induction ops generalizing s with
  | nil => rfl
  | cons op ops ih =>
    obtain ⟨hanswer, hsession, hdefinition⟩ := perform_withDefinition h op
    have hrest := ih (s := (s.perform op).session) (by rwa [hdefinition])
    rw [← hsession] at hrest
    simp only [Run.answers, run, List.map_cons] at hrest ⊢
    rw [hanswer, hrest]

end Session

open Session

/-- The canonical definition of what a definition is read as is accepted
under the same options and read as the same tree, so writing trees down
and reading them is a fixed point there.  Under all other options too it
is read as the definition is, or refused as it is; so sessions of the two
give the same answers in any run. -/
theorem canonical_rereads (options : RuleOptions) (definition : Json) (rule : Rule)
    (h : Rule.ofJson options definition = .ok rule) :
    Rule.ofJson options rule.define = .ok rule ∧
    (Rule.ofJson options rule.define).map Rule.define = .ok rule.define ∧
    (∀ other, Rule.ofJson other rule.define = Rule.ofJson other definition) ∧
    ∃ s canonical, start definition options = .ok s ∧ start rule.define options = .ok canonical ∧
      canonical.root = s.root ∧
      (∀ record, canonical.evaluate record = s.evaluate record ∧
        canonical.explain record = s.explain record) ∧
      ∀ ops, (canonical.run ops).answers = (s.run ops).answers := by
  have hdefine := Rule.ofJson_define definition rule h
  have hread : Rule.ofJson options rule.define = .ok rule := (hdefine options).trans h
  have hstart (d : Json) (hd : Rule.ofJson options d = .ok rule) :
      start d options = .ok ⟨d, rule, options, rule.fields, false⟩ := by
    rw [start, hd]
    rfl
  refine ⟨hread, by rw [hread]; rfl, hdefine, _, _, hstart definition h, hstart _ hread, rfl,
    fun record => ⟨rfl, rfl⟩, ?_⟩
  exact fun ops =>
    answers_withDefinition (s := ⟨definition, rule, options, rule.fields, false⟩) hdefine ops

/-- A definition with names in other spellings, an item that is no rule
and a key that means nothing. -/
def looseDefinition : Json :=
  .ofMembers [("condition", .string "Or"), ("not", .bool true), ("rules", .array
    [.string "from here on", .ofMembers [("field", .string "age"), ("type", .string "INTEGER"),
      ("operator", .string "less_or_equal"), ("value", .string "30"), ("note", .null)]])]

/-- The definition that is left of it. -/
def tightDefinition : Json :=
  .ofMembers [("condition", .string "OR"), ("not", .bool true), ("rules", .array
    [.ofMembers [("field", .string "age"), ("type", .string "Integer"),
      ("operator", .string "LessOrEqual"), ("value", .string "30")]])]

theorem canonical_rereads_loose : ∃ rule, Rule.ofJson {} looseDefinition = .ok rule ∧
    rule.define = tightDefinition ∧ Rule.ofJson {} tightDefinition = .ok rule := by
  have hdefine : (Rule.ofJson {} looseDefinition).map Rule.define = .ok tightDefinition := by
    rfl
  cases h : Rule.ofJson {} looseDefinition with
  | error failure =>
    rw [h] at hdefine
    cases hdefine
  | ok rule =>
    rw [h] at hdefine
    have htight : rule.define = tightDefinition := Except.ok.inj hdefine
    have hread := (canonical_rereads {} looseDefinition rule h).1
    rw [htight] at hread
    exact ⟨rule, rfl, htight, hread⟩

end RecordSieve
