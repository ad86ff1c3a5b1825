/-
RecordSieve.Proofs.Rule.Duality — a rule and its dual.

The dual of a rule joins by the other connective and asks the opposite of
each field rule.  Negation stands in two places: a condition keeps its
own, and a field rule turns its own round.  The dual then gives the
opposite answer (`evaluate_dual`), and stops and breaks off where the
rule does, because a child of the dual decides exactly if the child of
the rule does.

A field rule has an opposite answer only where it answers by its test.
For a record without the field, six families take negation into account,
and four do not: those answer no either way (`OperatorFamily.needsField`).
-/
import RecordSieve.Proofs.Rule.Reading
import RecordSieve.Proofs.Rule.Tests

namespace RecordSieve

variable {options : RuleOptions} {record : Json}

@[simp] theorem Connective.decisive_dual (c : Connective) : c.dual.decisive = !c.decisive := by
  cases c <;> rfl

/-- The families that say no to a record without the field, negated or not. -/
def OperatorFamily.needsField : OperatorFamily → Bool
  | isIn | less | greater | between => true
  | equal | null | empty | contains | beginsWith | endsWith => false

theorem OperatorFamily.holdsMissing_not {family : OperatorFamily} (h : family.needsField = false)
    (negated : Bool) (ctx : TestContext) :
    family.holdsMissing (!negated) ctx = !family.holdsMissing negated ctx := by
  cases family with
  | isIn | less | greater | between => cases h
  | equal | null | empty | contains | beginsWith | endsWith =>
    cases negated <;> simp [holdsMissing]

theorem OperatorFamily.holdsMissing_of_needsField {family : OperatorFamily}
    (h : family.needsField = true) (negated : Bool) (ctx : TestContext) :
    family.holdsMissing negated ctx = false := by
  cases family with
  | isIn | less | greater | between => rfl
  | equal | null | empty | contains | beginsWith | endsWith => cases h

/-! ## Field rules -/

namespace FieldRule

variable {r : FieldRule}

/-- The rule with the other operator of its family. -/
def opposite (r : FieldRule) : FieldRule := { r with negated := !r.negated }

/-- A field rule has the opposite answer, unless its family needs the
field and the record lacks it. -/
theorem evaluate_opposite
    (h : r.family.needsField = true → (record.resolve r.field).isSome = true) :
    r.opposite.evaluate options record = (r.evaluate options record).map (!·) := by
  have hfield : r.opposite.field = r.field := rfl
  cases htoken : record.resolve r.field with
  | none =>
    have hfamily : r.family.needsField = false := by
      refine Bool.eq_false_iff.mpr fun hneeds => ?_
      have hsome := h hneeds
      rw [htoken] at hsome
      cases hsome
    rw [evaluate_of_missing htoken, evaluate_of_missing (hfield ▸ htoken)]
    exact congrArg Except.ok (OperatorFamily.holdsMissing_not hfamily r.negated _)
  | some token =>
    rw [evaluate_of_token htoken, evaluate_of_token (hfield ▸ htoken)]
    show (r.family.holds (r.context options) token).map (fun b => b != !r.negated) = _
    cases r.family.holds (r.context options) token with
    | error abort => rfl
    | ok b => cases b <;> cases r.negated <;> rfl

/-- Without the field, a rule whose family needs it and its opposite both say no. -/
theorem evaluate_missing (hfamily : r.family.needsField = true)
    (hmissing : record.resolve r.field = none) :
    r.evaluate options record = .ok false ∧ r.opposite.evaluate options record = .ok false := by
  have hfield : r.opposite.field = r.field := rfl
  rw [evaluate_of_missing hmissing, evaluate_of_missing (hfield ▸ hmissing)]
  have hno := OperatorFamily.holdsMissing_of_needsField hfamily
  exact ⟨congrArg Except.ok (hno _ _), congrArg Except.ok (hno _ _)⟩

end FieldRule

/-! ## Rules -/

namespace Rule

mutual

/-- The rule with the other connectives and the opposite field rules.
Negated conditions stay negated. -/
def dual : Rule → Rule
  | field r => field r.opposite
  | condition connective negated children => condition connective.dual negated (dualAll children)

/-- The duals of several rules. -/
def dualAll : List Rule → List Rule
  | [] => []
  | rule :: rules => dual rule :: dualAll rules

end

mutual

/-- The dual has the opposite answer, and breaks off where the rule does. -/
theorem evaluate_dual : ∀ rule : Rule,
    (∀ r ∈ rule.leaves, r.family.needsField = true → (record.resolve r.field).isSome = true) →
      evaluate options record rule.dual = (evaluate options record rule).map (!·)
  | field r, h => by
    rw [dual, evaluate, evaluate]
    exact FieldRule.evaluate_opposite (h r (by simp [leaves]))
  | condition connective negated children, h => by
    rw [leaves] at h
    rw [dual, evaluate_condition, evaluate_condition, evaluateChildren_dual connective children h]
    cases evaluateChildren options record connective children with
    | error abort => rfl
    | ok b => cases b <;> cases negated <;> rfl

theorem evaluateChildren_dual (connective : Connective) : ∀ children : List Rule,
    (∀ r ∈ leavesAll children,
      r.family.needsField = true → (record.resolve r.field).isSome = true) →
      evaluateChildren options record connective.dual (dualAll children) =
        (evaluateChildren options record connective children).map (!·)
  | [], _ => by
    rw [dualAll, evaluateChildren, evaluateChildren, Connective.decisive_dual]
    rfl
  | child :: children, h => by
    simp only [leavesAll, List.mem_append] at h
    have hchild := evaluate_dual child fun r hr => h r (Or.inl hr)
    have hrest := evaluateChildren_dual connective children fun r hr => h r (Or.inr hr)
    rw [dualAll]
    cases hv : evaluate options record child with
    | error abort =>
      rw [hv] at hchild
      rw [evaluateChildren_cons_error hv, evaluateChildren_cons_error hchild]
      rfl
    | ok b =>
      rw [hv] at hchild
      rw [evaluateChildren_cons_ok hv, evaluateChildren_cons_ok hchild, hrest]
      -- The dual of the child decides the dual exactly if the child decides.
      cases b <;> cases connective <;> rfl

end

/-- The dual of a rule gives the opposite answer for every record that
has the field of each leaf that needs it; a leaf that needs its field
and the opposite leaf both say no where it is missing. -/
theorem evaluate_dual_eq_not (options : RuleOptions) (record : Json) :
    (∀ rule : Rule,
      (∀ r ∈ rule.leaves, r.family ∈ [.isIn, .less, .greater, .between] →
        ∃ token, record.resolve r.field = some token) →
      evaluate options record rule.dual = (evaluate options record rule).map (!·)) ∧
    ∀ r : FieldRule, r.family ∈ [.isIn, .less, .greater, .between] →
      record.resolve r.field = none →
        r.evaluate options record = .ok false ∧ r.opposite.evaluate options record = .ok false := by
  have hneeds (family : OperatorFamily) :
      family.needsField = true ↔ family ∈ [.isIn, .less, .greater, .between] := by
    cases family <;> decide
  constructor
  · intro rule h
    refine evaluate_dual rule fun r hr hfamily => ?_
    exact Option.isSome_iff_exists.mpr (h r hr ((hneeds r.family).mp hfamily))
  · intro r hfamily hmissing
    exact FieldRule.evaluate_missing ((hneeds r.family).mpr hfamily) hmissing

/-- The count is at most 3. -/
def countRule : FieldRule :=
  ⟨"count", .integer, .greater, true, some (.number (.integer 3 (by decide))),
    [some (.integer 3)]⟩

/-- NOT (state Equal "open" OR (count LessOrEqual 3 AND notes IsNull)). -/
def openOrFew : Rule :=
  .condition .or true
    [.field ⟨"state", .string, .equal, false, some (.string "open"), [some (.string "open")]⟩,
     .condition .and false
      [.field countRule, .field ⟨"notes", .string, .null, false, none, []⟩]]

/-- The record has no notes, and need not; without a count it would not do. -/
theorem evaluate_dual_eq_not_openOrFew :
    (∀ r ∈ openOrFew.leaves, r.family ∈ [.isIn, .less, .greater, .between] →
      ∃ token, (Json.ofMembers [("state", .string "shut"), ("count", .string "7")]).resolve r.field =
        some token) ∧
    evaluate {} (.ofMembers [("state", .string "shut"), ("count", .string "7")]) openOrFew.dual =
      .ok false ∧
    countRule.evaluate {} (.ofMembers [("state", .string "shut")]) = .ok false ∧
    countRule.opposite.evaluate {} (.ofMembers [("state", .string "shut")]) = .ok false := by
  obtain ⟨hdual, -⟩ :=
    evaluate_dual_eq_not {} (.ofMembers [("state", .string "shut"), ("count", .string "7")])
  obtain ⟨-, hmissing⟩ := evaluate_dual_eq_not {} (.ofMembers [("state", .string "shut")])
  have hfields : ∀ r ∈ openOrFew.leaves, r.family ∈ [.isIn, .less, .greater, .between] →
      ∃ token, (Json.ofMembers [("state", .string "shut"), ("count", .string "7")]).resolve
        r.field = some token := by
    simp only [openOrFew, leaves, leavesAll, List.append_nil, List.cons_append, List.nil_append,
      List.forall_mem_cons]
    exact ⟨nofun, fun _ => ⟨_, rfl⟩, nofun, by simp⟩
  have hvalue : evaluate {} (.ofMembers [("state", .string "shut"), ("count", .string "7")])
      openOrFew = .ok true := by
    decide +kernel
  refine ⟨hfields, ?_, hmissing countRule (by decide) (by decide +kernel)⟩
  rw [hdual openOrFew hfields, hvalue]
  rfl

end Rule

end RecordSieve
