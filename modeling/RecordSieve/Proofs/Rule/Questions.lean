/-
RecordSieve.Proofs.Rule.Questions — questions as questions about the
value read.

A question to a record that has the field reads the data of the field,
and breaks off if the reading does.  What is then asked of the value,
present or absent, is said here operator by operator (`ask_equal` and its
like); a negated operator has the opposite answer (`ask_negated`).

Contains does not read an array: it asks Equal of the items one after the
other, each of them as if it were the data (`ask_contains_array`).
-/
import RecordSieve.Proofs.Rule.Ordering

namespace RecordSieve

namespace Json

/-- The record with a value under a path, and nothing else. -/
def nest : List String → Json → Json
  | [], value => value
  | key :: path, value => object [(key, nest path value)]

/-- The record with a value in a field, and nothing else. -/
def holding (field : String) (value : Json) : Json := nest (pathOf field) value

theorem follow_nest (path : List String) (value : Json) :
    (nest path value).follow path = some value := by
  induction path with
  | nil => rfl
  | cons key path ih => simp [nest, follow, ih]

@[simp] theorem resolve_holding (field : String) (value : Json) :
    (holding field value).resolve field = some value :=
  follow_nest (pathOf field) value

end Json

namespace FieldRule

variable {options : RuleOptions} {kind : FieldType} {record token value : Json} {field : String}
  {operands : List (Option FieldValue)}

/-- Whether a field of a record is as an operator says that takes no operand. -/
def askAlone (options : RuleOptions) (record : Json) (field : String) (kind : FieldType)
    (op : Operator) : Attempt CoercionError Bool :=
  Attempt.ofOutcome ((new field kind op).evaluate options record)

theorem askAlone_of_token {op : Operator} (htoken : record.resolve field = some token) :
    askAlone options record field kind op = Attempt.ofOutcome
      ((op.split.1.holds ⟨kind, [], options⟩ token).map (· != op.split.2)) :=
  congrArg Attempt.ofOutcome (@evaluate_of_token options record token (new field kind op) htoken)

theorem askAlone_isNull (htoken : record.resolve field = some token) :
    askAlone options record field kind .isNull =
      Attempt.ofOutcome ((coerceData options kind token).map Option.isNone) := by
  refine (askAlone_of_token htoken).trans (congrArg Attempt.ofOutcome ?_)
  refine (map_bne_false (TestContext.isNull ⟨kind, [], options⟩ token)).trans ?_
  rw [TestContext.isNull, TestContext.read]
  cases coerceData options kind token <;> rfl

theorem askAlone_isEmpty (htoken : record.resolve field = some token) :
    askAlone options record field kind .isEmpty = Attempt.ofOutcome
      ((coerceData options kind token).map (Option.all FieldValue.isDefault)) := by
  refine (askAlone_of_token htoken).trans (congrArg Attempt.ofOutcome ?_)
  refine (map_bne_false (TestContext.isEmpty ⟨kind, [], options⟩ token)).trans ?_
  rw [TestContext.isEmpty, TestContext.read]
  cases coerceData options kind token <;> rfl

section

variable (hoperands : operandsOf options kind (some value) = .ok operands)
  (htoken : record.resolve field = some token)

include hoperands htoken

/-- The negated operator of a family has the opposite answer. -/
theorem ask_negated (family : OperatorFamily) :
    ask options record field kind (family.operator true) value =
      (ask options record field kind (family.operator false) value).map (!·) := by
  rw [ask_of_token hoperands htoken, ask_of_token hoperands htoken,
    OperatorFamily.split_operator, OperatorFamily.split_operator]
  rcases family.holds ⟨kind, operands, options⟩ token with abort | b
  · rfl
  · cases b <;> rfl

theorem ask_equal : ask options record field kind .equal value = Attempt.ofOutcome
    ((coerceData options kind token).map
      (Option.any (TestContext.equalsFirst ⟨kind, operands, options⟩))) := by
  refine (ask_of_token hoperands htoken).trans (congrArg Attempt.ofOutcome ?_)
  exact (map_bne_false _).trans TestContext.equals_eq_map

/-- What an operator says, as its family and negation do. -/
theorem ask_operator (family : OperatorFamily) (negated : Bool) {b : Bool}
    (hholds : family.holds ⟨kind, operands, options⟩ token = .ok b) :
    ask options record field kind (family.operator negated) value = .ok (b != negated) :=
  ask_of_holds (OperatorFamily.split_operator family negated) hoperands htoken hholds

theorem ask_isIn : ask options record field kind .isIn value = Attempt.ofOutcome
    ((coerceData options kind token).map
      (Option.any (TestContext.equalsAny ⟨kind, operands, options⟩))) := by
  refine (ask_of_token hoperands htoken).trans (congrArg Attempt.ofOutcome ?_)
  exact (map_bne_false _).trans TestContext.isListed_eq_map

theorem ask_contains : ask options record field kind .contains value =
    Attempt.ofOutcome (TestContext.contains ⟨kind, operands, options⟩ token) :=
  (ask_of_token hoperands htoken).trans (congrArg Attempt.ofOutcome (map_bne_false _))

end

theorem ask_equal_of_value {v c : FieldValue} (hc : coerce options kind value = .ok (some c))
    (htoken : record.resolve field = some token)
    (hv : coerceData options kind token = .ok (some v)) :
    ask options record field kind .equal value = .ok (v.equal options.compare c) := by
  rw [ask_equal (operandsOf_scalar hc) htoken, hv]
  rfl

/-! ## Items of an array -/

section

variable {items : List Json} {c : FieldValue}

theorem ask_contains_array (hc : coerce options kind value = .ok (some c))
    (htoken : record.resolve field = some (.array items)) :
    ask options record field kind .contains value =
      items.anyM fun item => ask options (.holding field item) field kind .equal value := by
  have hoperands := operandsOf_scalar hc
  have hfirst : TestContext.operand? ⟨kind, [some c], options⟩ 0 = some c := rfl
  have hitem : ∀ item, ask options (.holding field item) field kind .equal value =
      Attempt.ofOutcome (TestContext.itemEquals ⟨kind, [some c], options⟩ c item) := fun item => by
    rw [ask_equal hoperands (Json.resolve_holding field item), TestContext.itemEquals_eq_map]
    rfl
  rw [ask_contains hoperands htoken, TestContext.contains_array hfirst, ofOutcome_anyM,
    funext hitem]

/-- Without an operand nothing is contained, and no item is read. -/
theorem ask_contains_absent (hc : coerce options kind value = .ok none)
    (htoken : record.resolve field = some token) :
    ask options record field kind .contains value = .ok false := by
  have hfirst : TestContext.operand? ⟨kind, [none], options⟩ 0 = none := rfl
  rw [ask_contains (operandsOf_scalar hc) htoken, TestContext.contains_of_missing hfirst]
  rfl

end

end FieldRule

end RecordSieve
