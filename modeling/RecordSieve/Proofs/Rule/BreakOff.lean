/-
RecordSieve.Proofs.Rule.BreakOff — when reading rules and evaluating
them breaks off.

A rule has an answer for a record unless the answer needs a value whose
coercion breaks off.  Which values are needed follows the tests: Between
reads the data only if both its ends are there, Contains looks at the
items of an array up to the first equal one, and a condition asks its
children up to the first that decides it.  `Rule.BreaksOff` says this
without evaluating beyond that point, and evaluation breaks off in
exactly these cases (`evaluate_eq_error_iff`).  The same holds for
reading a definition, where the operands are what is coerced
(`ofJson_eq_aborted_iff`).
-/
import RecordSieve.Proofs.Rule.Definition
import RecordSieve.Proofs.Rule.Reading
import RecordSieve.Proofs.Value.SafeSteps

namespace RecordSieve

variable {options : RuleOptions} {record : Json} {abort : Abort}

/-! ## Tests -/

namespace TestContext

variable {ctx : TestContext} {token : Json}

/-- Reading the data breaks off. -/
def BreaksOff (ctx : TestContext) (token : Json) : Prop :=
  Coercion.BreaksOff ctx.options ctx.kind token

/-- Looking for an operand in the data breaks off: in an array, at an
item before which none equals the operand. -/
def SearchBreaksOff (ctx : TestContext) (c : FieldValue) : Json → Prop
  | .array items => Reaches (ctx.itemEquals c · = .ok false) ctx.BreaksOff items
  | token => ctx.BreaksOff token

theorem read_eq_error_iff : ctx.read token = .error abort ↔ ctx.BreaksOff token :=
  coerceData_eq_error_iff

/-- A test that reads the data and then gives an answer breaks off where
the reading does. -/
theorem bind_read_eq_error_iff {β : Type} {f : Option FieldValue → Except Abort β}
    (hf : ∀ v, ∃ b, f v = .ok b) : (ctx.read token >>= f) = .error abort ↔ ctx.BreaksOff token := by
  rw [bind_eq_error_iff, read_eq_error_iff]
  -- What follows the reading cannot be what broke off.
  refine or_iff_left ?_
  rintro ⟨v, -, h⟩
  obtain ⟨b, hb⟩ := hf v
  rw [hb] at h
  cases h

theorem equals_eq_error_iff : ctx.equals token = .error abort ↔ ctx.BreaksOff token := by
  rw [equals]
  refine bind_read_eq_error_iff fun v => ?_
  split <;> exact ⟨_, rfl⟩

theorem isListed_eq_error_iff : ctx.isListed token = .error abort ↔ ctx.BreaksOff token := by
  rw [isListed]
  refine bind_read_eq_error_iff fun v => ?_
  split <;> exact ⟨_, rfl⟩

theorem compareFirst?_eq_error_iff :
    ctx.compareFirst? token = .error abort ↔ ctx.BreaksOff token :=
  bind_read_eq_error_iff fun _ => ⟨_, rfl⟩

theorem isNull_eq_error_iff : ctx.isNull token = .error abort ↔ ctx.BreaksOff token :=
  bind_read_eq_error_iff fun _ => ⟨_, rfl⟩

theorem isEmpty_eq_error_iff : ctx.isEmpty token = .error abort ↔ ctx.BreaksOff token :=
  bind_read_eq_error_iff fun _ => ⟨_, rfl⟩

theorem itemEquals_eq_error_iff {c : FieldValue} :
    ctx.itemEquals c token = .error abort ↔ ctx.BreaksOff token :=
  bind_read_eq_error_iff fun _ => ⟨_, rfl⟩

theorem textTest_eq_error_iff {test : CompareFlags → String → String → Bool} :
    ctx.textTest test token = .error abort ↔ ctx.BreaksOff token := by
  rw [textTest]
  refine bind_read_eq_error_iff fun v => ?_
  split <;> exact ⟨_, rfl⟩

theorem isBetween_eq_error_iff : ctx.isBetween token = .error abort ↔
    (ctx.operand? 0).isSome = true ∧ (ctx.operand? 1).isSome = true ∧ ctx.BreaksOff token := by
  rw [isBetween]
  cases ctx.operand? 0 with
  | none => simp [pure, Except.pure]
  | some low =>
    cases ctx.operand? 1 with
    | none => simp [pure, Except.pure]
    | some high =>
      simp only [Option.isSome_some, true_and]
      refine bind_read_eq_error_iff fun v => ?_
      split <;> exact ⟨_, rfl⟩

theorem contains_eq_error_iff : ctx.contains token = .error abort ↔
    ∃ c, ctx.operand? 0 = some c ∧ ctx.SearchBreaksOff c token := by
  rw [contains]
  cases ctx.operand? 0 with
  | none => simp
  | some c =>
    simp only [Option.some.injEq, exists_eq_left']
    cases token with
    | array items => simp only [anyM_eq_error_iff, itemEquals_eq_error_iff, SearchBreaksOff]
    | _ => exact bind_read_eq_error_iff fun _ => ⟨_, rfl⟩

end TestContext

/-- The test of a family breaks off on data. -/
def OperatorFamily.BreaksOff (family : OperatorFamily) (ctx : TestContext) (token : Json) : Prop :=
  match family with
  | between =>
    (ctx.operand? 0).isSome = true ∧ (ctx.operand? 1).isSome = true ∧ ctx.BreaksOff token
  | contains => ∃ c, ctx.operand? 0 = some c ∧ ctx.SearchBreaksOff c token
  | _ => ctx.BreaksOff token

theorem OperatorFamily.holds_eq_error_iff {family : OperatorFamily} {ctx : TestContext}
    {token : Json} : family.holds ctx token = .error abort ↔ family.BreaksOff ctx token := by
  cases family with
  | equal => exact TestContext.equals_eq_error_iff
  | isIn => exact TestContext.isListed_eq_error_iff
  | less =>
    rw [holds, bind_eq_error_iff, TestContext.compareFirst?_eq_error_iff]
    simp [pure, Except.pure, BreaksOff]
  | greater =>
    rw [holds, bind_eq_error_iff, TestContext.compareFirst?_eq_error_iff]
    simp [pure, Except.pure, BreaksOff]
  | between => exact TestContext.isBetween_eq_error_iff
  | null => exact TestContext.isNull_eq_error_iff
  | empty => exact TestContext.isEmpty_eq_error_iff
  | contains => exact TestContext.contains_eq_error_iff
  | beginsWith => exact TestContext.textTest_eq_error_iff
  | endsWith => exact TestContext.textTest_eq_error_iff

/-! ## Rules -/

/-- The record has the field, and the rule's test breaks off on it. -/
def FieldRule.BreaksOff (options : RuleOptions) (record : Json) (r : FieldRule) : Prop :=
  ∃ token, record.resolve r.field = some token ∧ r.family.BreaksOff (r.context options) token

theorem FieldRule.evaluate_eq_error_iff {r : FieldRule} :
    r.evaluate options record = .error abort ↔ r.BreaksOff options record := by
  rw [evaluate, FieldRule.BreaksOff]
  cases record.resolve r.field with
  | none => simp
  | some token =>
    simp only [bind_eq_error_iff, OperatorFamily.holds_eq_error_iff]
    simp [pure, Except.pure]

namespace Rule

/-- The rule's answer needs a field rule that breaks off: in a condition,
no child before has decided it. -/
inductive BreaksOff (options : RuleOptions) (record : Json) : Rule → Prop where
  | field {r : FieldRule} : r.BreaksOff options record → BreaksOff options record (field r)
  | condition {connective : Connective} {negated : Bool} {before after : List Rule} {child : Rule} :
      (∀ x ∈ before, evaluate options record x = .ok (!connective.decisive)) →
      BreaksOff options record child →
      BreaksOff options record (condition connective negated (before ++ child :: after))

theorem breaksOff_field_iff {r : FieldRule} :
    BreaksOff options record (field r) ↔ r.BreaksOff options record :=
  ⟨fun | .field h => h, .field⟩

theorem breaksOff_condition_iff {connective : Connective} {negated : Bool} {children : List Rule} :
    BreaksOff options record (condition connective negated children) ↔
      Reaches (evaluate options record · = .ok (!connective.decisive)) (BreaksOff options record)
        children := by
  constructor
  · intro h
    -- `cases` cannot solve for the parts of an append, so the index becomes an equation.
    generalize hrule : condition connective negated children = rule at h
    cases h with
    | field => cases hrule
    | condition hbefore hchild =>
      cases hrule
      exact ⟨_, _, _, rfl, hbefore, hchild⟩
  · rintro ⟨before, child, after, rfl, hbefore, hchild⟩
    exact .condition hbefore hchild

mutual

/-- Evaluation breaks off exactly where the rule says so. -/
theorem evaluate_eq_error_iff : ∀ rule : Rule,
    evaluate options record rule = .error abort ↔ BreaksOff options record rule
  | field r => by rw [evaluate, FieldRule.evaluate_eq_error_iff, breaksOff_field_iff]
  | condition connective negated children => by
    rw [evaluate_condition, breaksOff_condition_iff,
      ← evaluateChildren_eq_error_iff connective children]
    cases evaluateChildren options record connective children <;> simp [Except.map]

theorem evaluateChildren_eq_error_iff (connective : Connective) : ∀ children : List Rule,
    evaluateChildren options record connective children = .error abort ↔
      Reaches (evaluate options record · = .ok (!connective.decisive)) (BreaksOff options record)
        children
  | [] => by simp [evaluateChildren, not_reaches_nil]
  | child :: children => by
    rw [reaches_cons, ← evaluate_eq_error_iff child,
      ← evaluateChildren_eq_error_iff connective children]
    cases hchild : evaluate options record child with
    | error abort' =>
      rw [evaluateChildren_cons_error hchild]
      simp
    | ok b =>
      rw [evaluateChildren_cons_ok hchild]
      cases b <;> cases connective <;> simp [Connective.decisive]

end

theorem exists_evaluate_iff {rule : Rule} :
    (∃ b, evaluate options record rule = .ok b) ↔ ¬ BreaksOff options record rule := by
  rw [exists_ok_iff, Ne, evaluate_eq_error_iff]

end Rule

/-! ## Definitions -/

/-- Reading the operand value of a field rule breaks off: in an array, at
an item before which all are of the type. -/
def Definition.OperandBreaksOff (options : RuleOptions) (kind : FieldType) : Option Json → Prop
  | none => False
  | some (.array items) =>
    Reaches (∃ v, coerce options kind · = .ok v) (Coercion.BreaksOff options kind) items
  | some value => Coercion.BreaksOff options kind value

theorem FieldRule.operandsOf_eq_aborted_iff {kind : FieldType} {value : Option Json} :
    operandsOf options kind value = .error (.aborted abort) ↔
      Definition.OperandBreaksOff options kind value := by
  unfold operandsOf
  split
  · simp [Definition.OperandBreaksOff]
  · simp [Definition.OperandBreaksOff, not_reaches_nil]
  · simp only [mapM_eq_error_iff, coerce_eq_aborted_iff, Definition.OperandBreaksOff]
  · next value hnil harray =>
    have hoperand : Definition.OperandBreaksOff options kind (some value) =
        Coercion.BreaksOff options kind value := by
      cases value with
      | array items => exact absurd rfl (harray items)
      | _ => rfl
    rw [bind_eq_error_iff, coerce_eq_aborted_iff, hoperand]
    simp [pure, Except.pure]

namespace Definition

/-- Reading the definition breaks off: at the operand of a field rule
that is otherwise well-formed, or in a condition at a child before which
all are accepted. -/
inductive BreaksOff (options : RuleOptions) : Json → Prop where
  | operand {members : List (String × Json)} {head : FieldRule} :
      members.lookup "condition" = none → headOf members = .ok head →
      OperandBreaksOff options head.kind (members.lookup "value") →
      BreaksOff options (.object members)
  | child {members : List (String × Json)} {value child : Json} {connective : Connective}
      {before after : List Json} :
      members.lookup "condition" = some value → connectiveOf value = .ok connective →
      childItems members = before ++ child :: after →
      (∀ x ∈ before, ∃ rule, Rule.ofJson options x = .ok rule) → BreaksOff options child →
      BreaksOff options (.object members)

theorem breaksOff_field_iff {members : List (String × Json)}
    (h : members.lookup "condition" = none) : BreaksOff options (.object members) ↔
      ∃ head, headOf members = .ok head ∧
        OperandBreaksOff options head.kind (members.lookup "value") := by
  constructor
  · intro hbreak
    cases hbreak with
    | operand _ hhead hoperand => exact ⟨_, hhead, hoperand⟩
    | child hvalue => rw [h] at hvalue; cases hvalue
  · rintro ⟨head, hhead, hoperand⟩
    exact .operand h hhead hoperand

theorem breaksOff_condition_iff {members : List (String × Json)} {value : Json}
    (h : members.lookup "condition" = some value) : BreaksOff options (.object members) ↔
      (∃ connective, connectiveOf value = .ok connective) ∧
        Reaches (∃ rule, Rule.ofJson options · = .ok rule) (BreaksOff options)
          (childItems members) := by
  constructor
  · intro hbreak
    cases hbreak with
    | operand hnone => rw [h] at hnone; cases hnone
    | child hvalue hconnective hitems hbefore hchild =>
      rw [h] at hvalue
      cases hvalue
      exact ⟨⟨_, hconnective⟩, _, _, _, hitems, hbefore, hchild⟩
  · rintro ⟨⟨connective, hconnective⟩, before, child, after, hitems, hbefore, hchild⟩
    exact .child h hconnective hitems hbefore hchild

theorem requiredString_ne_aborted {members : List (String × Json)} {key : String} :
    requiredString members key ≠ .error (.aborted abort) := by
  rw [requiredString]
  split <;> simp [Attempt.refuse]

theorem headOf_ne_aborted {members : List (String × Json)} :
    headOf members ≠ .error (.aborted abort) := by
  simp [headOf, bind_eq_error_iff, requiredString_ne_aborted, ofOption_ne_aborted, pure,
    Except.pure]

theorem connectiveOf_ne_aborted {value : Json} : connectiveOf value ≠ .error (.aborted abort) := by
  cases value <;> simp [connectiveOf, ofOption_ne_aborted, Attempt.refuse]

theorem fieldRuleOf_eq_aborted_iff {members : List (String × Json)} :
    fieldRuleOf options members = .error (.aborted abort) ↔ ∃ head, headOf members = .ok head ∧
      OperandBreaksOff options head.kind (members.lookup "value") := by
  rw [fieldRuleOf_eq, bind_eq_error_iff, or_iff_right headOf_ne_aborted]
  simp only [mapCause_eq_aborted_iff, FieldRule.assign, bind_eq_error_iff,
    FieldRule.operandsOf_eq_aborted_iff]
  simp [pure, Except.pure]

end Definition

namespace Rule

open Definition

/-- Reading a definition breaks off exactly where the definition says so. -/
theorem ofJson_eq_aborted_iff (definition : Json) :
    ofJson options definition = .error (.aborted abort) ↔
      Definition.BreaksOff options definition := by
  induction definition using Definition.induction with
  | object members ih =>
    cases hcondition : members.lookup "condition" with
    | none =>
      rw [ofJson_field hcondition, Definition.breaksOff_field_iff hcondition,
        ← @fieldRuleOf_eq_aborted_iff options abort]
      cases fieldRuleOf options members <;> simp [Except.map]
    | some value =>
      rw [ofJson_condition hcondition, Definition.breaksOff_condition_iff hcondition,
        bind_eq_error_iff, or_iff_right connectiveOf_ne_aborted]
      simp only [bind_eq_error_iff, mapM_eq_error_iff, reaches_congr ih]
      simp [pure, Except.pure]
  | other value hvalue =>
    rw [ofJson_of_not_isObject hvalue]
    refine iff_of_false (by simp [Attempt.refuse]) fun h => ?_
    cases h <;> cases hvalue

end Rule

/-! ## Sessions -/

namespace Session

theorem exists_explain_iff {s : Session} :
    (∃ e, s.explain record = .ok e) ↔ ∃ b, s.evaluate record = .ok b := by
  rw [evaluate, ← Rule.explain_matched s.tracing, explain]
  cases s.root.explain s.options s.tracing record <;> simp [Except.map]

theorem exists_filter_iff {s : Session} {records : List Json} :
    (∃ kept, s.filter records = .ok kept) ↔
      ∀ record ∈ records, ¬ s.root.BreaksOff s.options record := by
  have hpassed : ∀ record, ¬ s.evaluate record = .error .offsetCut →
      ∃ b, s.evaluate record = .ok b := fun record h => exists_ok_iff.mpr h
  rw [exists_ok_iff, filter, Ne, filterM_eq_error_iff, reaches_iff_exists hpassed]
  simp [evaluate, Rule.evaluate_eq_error_iff]

/-- Evaluation, explanation and filtering give a result, and reading a
definition accepts or refuses it, unless the offset of a date that has to
be read is cut inside a digit.  Only strings with decimal digits beyond
ASCII have such offsets, and no other step can go wrong. -/
theorem results_unless_breaksOff (s : Session) (record : Json) (records : List Json)
    (definition : Json) (options : RuleOptions) :
    ((∃ b, s.evaluate record = .ok b) ↔ ¬ s.root.BreaksOff s.options record) ∧
    ((∃ e, s.explain record = .ok e) ↔ ¬ s.root.BreaksOff s.options record) ∧
    ((∃ kept, s.filter records = .ok kept) ↔
      ∀ record ∈ records, ¬ s.root.BreaksOff s.options record) ∧
    (((∃ rule, Rule.ofJson options definition = .ok rule) ∨
        ∃ cause, Rule.ofJson options definition = .error (.refused cause)) ↔
      ¬ Definition.BreaksOff options definition) ∧
    (∀ kind value, Coercion.BreaksOff options kind value →
      ∃ s, value = .string s ∧ ∃ c ∈ s.toList, Text.isDecimalDigit c = true ∧ 1 < c.utf8Size) ∧
    SafeSteps := by
  refine ⟨Rule.exists_evaluate_iff, ?_, exists_filter_iff, ?_, ?_, safeSteps⟩
  · rw [exists_explain_iff]
    exact Rule.exists_evaluate_iff
  · rw [ok_or_refused_iff, Ne, Rule.ofJson_eq_aborted_iff]
  · intro kind value h
    exact Coercion.exists_wide_of_breaksOff h

/-- The rule that a date is missing. -/
def missingDate : Json :=
  .ofMembers [("field", .string "d"), ("type", .string "datetime"), ("operator", .string "is_null")]

def dateRecord (text : String) : Json := .ofMembers [("d", .string text)]

/-- The offset is two Devanagari digits of three bytes each. -/
theorem not_result_devanagari :
    ¬ ∀ (definition record : Json) (options : RuleOptions) (s : Session),
      start definition options = .ok s → ∃ b, s.evaluate record = .ok b := by
  intro h
  have hrun : (start missingDate {}).map
      (·.evaluate (dateRecord "2019-06-01 08:00 +\u0966\u096B")) = .ok (.error .offsetCut) := by
    decide +kernel
  cases hs : start missingDate {} with
  | error failure => rw [hs] at hrun; cases hrun
  | ok s =>
    rw [hs] at hrun
    have hcut : s.evaluate (dateRecord "2019-06-01 08:00 +\u0966\u096B") = .error .offsetCut :=
      Except.ok.inj hrun
    obtain ⟨b, hb⟩ := h missingDate _ {} s hs
    rw [hcut] at hb
    cases hb

/-- An offset that is cut between two digits does no harm. -/
theorem results_unless_breaksOff_ascii :
    ∃ s, start missingDate {} = .ok s ∧
      ¬ s.root.BreaksOff s.options (dateRecord "2019-06-01 08:00 +0530") := by
  have hrun : (start missingDate {}).map (·.evaluate (dateRecord "2019-06-01 08:00 +0530")) =
      .ok (.ok false) := by
    decide +kernel
  cases hs : start missingDate {} with
  | error failure => rw [hs] at hrun; cases hrun
  | ok s =>
    rw [hs] at hrun
    obtain ⟨hevaluate, -⟩ := results_unless_breaksOff s (dateRecord "2019-06-01 08:00 +0530") []
      missingDate {}
    exact ⟨s, rfl, hevaluate.mp ⟨false, Except.ok.inj hrun⟩⟩

end Session

end RecordSieve
