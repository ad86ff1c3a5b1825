/-
RecordSieve.Proofs.Rule.SelfMatch — a value as operand and as data.

An operand is read strictly and data leniently, and yet a value that is
read as an operand is read alike as data (`coerceData_of_coerce`).  So a
rule whose operand is the value of the field compares a value with
itself: the operators that admit equality hold and those that exclude it
do not, whatever the type and the flags.

The operators that search find the value in itself unless its text is
empty.  In an array Contains finds it among the items, unless it meets an
item first that breaks off and is not equal to the value.
-/
import RecordSieve.Proofs.Rule.Membership

namespace RecordSieve

variable {options : RuleOptions} {kind : FieldType} {value : Json} {v : FieldValue}

/-- A value that is accepted as an operand is read alike as data. -/
theorem coerceData_of_coerce (h : coerce options kind value = .ok (some v)) :
    coerceData options kind value = .ok (some v) := by
  rw [coerceData, h]
  rfl

namespace TestContext

variable {ctx : TestContext}

theorem valueContains_self (h : v.write ≠ "") : ctx.valueContains v v = true := by
  cases v with
  | string s =>
    have hs : s ≠ "" := h
    obtain ⟨hcontains, -, -⟩ :=
      Collation.search_of_fold_eq (rfl : Collation.fold ctx.options.compare s = _)
    simp [valueContains, hs, hcontains]
  | _ => exact FieldValue.equal_self _ _

theorem textsPass_self {test : CompareFlags → String → String → Bool} (h : v.write ≠ "")
    (htest : test ctx.options.compare v.write v.write = true) : ctx.textsPass test v v = true := by
  simp [textsPass, h, htest]

end TestContext

namespace FieldRule

open Definition

variable {record : Json} {field : String} {items : List Json}

section

variable (hvalue : coerce options kind value = .ok (some v))
  (hrecord : record.resolve field = some value)

include hvalue hrecord

theorem ask_isNotNull_self : ask options record field kind .isNotNull value = .ok true := by
  have hnull : OperatorFamily.null.holds ⟨kind, [some v], options⟩ value = .ok false := by
    rw [OperatorFamily.holds, TestContext.isNull, TestContext.read, coerceData_of_coerce hvalue]
    rfl
  exact ask_operator (operandsOf_scalar hvalue) hrecord .null true hnull

theorem ask_notEqual_self : ask options record field kind .notEqual value = .ok false := by
  have hequal := ask_equal_of_value hvalue hrecord (coerceData_of_coerce hvalue)
  refine (ask_negated (operandsOf_scalar hvalue) hrecord .equal).trans ?_
  refine (congrArg (Except.map (!·)) hequal).trans ?_
  simp [Except.map, FieldValue.equal_self]

theorem ask_between_self :
    ask options record field kind .between (.array [value, value]) = .ok true ∧
    ask options record field kind .notBetween (.array [value, value]) = .ok false := by
  have hself := FieldValue.order?_self options.compare v
  have hread : TestContext.read ⟨kind, [some v, some v], options⟩ value = .ok (some v) :=
    coerceData_of_coerce hvalue
  have hbetween : OperatorFamily.between.holds ⟨kind, [some v, some v], options⟩ value =
      .ok true :=
    OperatorFamily.holds_between hread rfl rfl hself hself
  have hoperands := operandsOf_pair hvalue hvalue
  exact ⟨ask_operator hoperands hrecord .between false hbetween,
    ask_operator hoperands hrecord .between true hbetween⟩

/-- A value is listed in every list that it is an item of. -/
theorem ask_isIn_self {cs : List Json} (hmem : value ∈ cs)
    (hcs : ∀ c ∈ cs, Coercible options kind c) :
    ask options record field kind .isIn (.array cs) = .ok true ∧
    ask options record field kind .notIn (.array cs) = .ok false := by
  have hequal := ask_equal_of_value hvalue hrecord (coerceData_of_coerce hvalue)
  rw [FieldValue.equal_self] at hequal
  have hisIn := (ask_isIn_eq_true_iff hcs hrecord).mpr ⟨value, hmem, hequal⟩
  refine ⟨hisIn, ?_⟩
  rw [ask_notIn hcs hrecord, hisIn]
  rfl

theorem ask_search_self (htext : v.write ≠ "") :
    ask options record field kind .contains value = .ok true ∧
    ask options record field kind .beginsWith value = .ok true ∧
    ask options record field kind .endsWith value = .ok true := by
  have hoperands := operandsOf_scalar hvalue
  have hread : TestContext.read ⟨kind, [some v], options⟩ value = .ok (some v) :=
    coerceData_of_coerce hvalue
  have hfirst : TestContext.operand? ⟨kind, [some v], options⟩ 0 = some v := rfl
  obtain ⟨-, hstarts, hends⟩ :=
    Collation.search_of_fold_eq (rfl : Collation.fold options.compare v.write = _)
  have hcontains : OperatorFamily.contains.holds ⟨kind, [some v], options⟩ value = .ok true := by
    rw [OperatorFamily.holds,
      TestContext.contains_of_not_array hfirst (ne_array_of_coerce hvalue), hread]
    exact congrArg Except.ok (TestContext.valueContains_self htext)
  have hbegins : OperatorFamily.beginsWith.holds ⟨kind, [some v], options⟩ value = .ok true := by
    rw [OperatorFamily.holds, TestContext.textTest_eq_map, hread, hfirst]
    exact congrArg Except.ok (TestContext.textsPass_self htext hstarts)
  have hendsWith : OperatorFamily.endsWith.holds ⟨kind, [some v], options⟩ value = .ok true := by
    rw [OperatorFamily.holds, TestContext.textTest_eq_map, hread, hfirst]
    exact congrArg Except.ok (TestContext.textsPass_self htext hends)
  exact ⟨ask_operator hoperands hrecord .contains false hcontains,
    ask_operator hoperands hrecord .beginsWith false hbegins,
    ask_operator hoperands hrecord .endsWith false hendsWith⟩

end

/-- A value is found in every array that it is an item of, if the search gets that far. -/
theorem ask_contains_item (hvalue : coerce options kind value = .ok (some v))
    (hrecord : record.resolve field = some (.array items)) (hmem : value ∈ items)
    (hsearch : ¬ SearchBreaksOff options field kind value items) :
    ask options record field kind .contains value = .ok true := by
  have hequal := ask_equal_of_value hvalue (Json.resolve_holding field value)
    (coerceData_of_coerce hvalue)
  rw [FieldValue.equal_self] at hequal
  exact (ask_contains_eq_true_iff ⟨_, hvalue⟩ hrecord hsearch).mpr ⟨value, hmem, hequal⟩

/-! ## A value and itself -/

/-- Put to a record whose field holds the operand itself, the operators
that admit equality hold, and those that exclude it do not.  If the value
has a text that is not empty, it contains itself and starts and ends with
itself.  An array with the value as an item contains it, unless an item
that breaks off comes before any that is equal; then there is no answer. -/
theorem value_matches_itself (hvalue : coerce options kind value = .ok (some v)) :
    (∀ record, record.resolve field = some value →
      ask options record field kind .equal value = .ok true ∧
      ask options record field kind .lessOrEqual value = .ok true ∧
      ask options record field kind .greaterOrEqual value = .ok true ∧
      ask options record field kind .isNotNull value = .ok true ∧
      ask options record field kind .less value = .ok false ∧
      ask options record field kind .greater value = .ok false ∧
      ask options record field kind .notEqual value = .ok false ∧
      ask options record field kind .between (.array [value, value]) = .ok true ∧
      ask options record field kind .notBetween (.array [value, value]) = .ok false ∧
      (∀ cs, value ∈ cs → (∀ c ∈ cs, Coercible options kind c) →
        ask options record field kind .isIn (.array cs) = .ok true ∧
        ask options record field kind .notIn (.array cs) = .ok false) ∧
      (v.write ≠ "" →
        ask options record field kind .contains value = .ok true ∧
        ask options record field kind .beginsWith value = .ok true ∧
        ask options record field kind .endsWith value = .ok true)) ∧
    (∀ record items, record.resolve field = some (.array items) → value ∈ items →
      (¬ SearchBreaksOff options field kind value items →
        ask options record field kind .contains value = .ok true) ∧
      (SearchBreaksOff options field kind value items →
        ask options record field kind .contains value = .error (.aborted .offsetCut))) := by
  constructor
  · intro record hrecord
    obtain ⟨hless, hequal, hgreater, hatLeast, hatMost⟩ := ask_of_order hvalue hrecord
      (coerceData_of_coerce hvalue) (FieldValue.order?_self options.compare v)
    obtain ⟨hbetween, hnotBetween⟩ := ask_between_self hvalue hrecord
    exact ⟨hequal, hatMost, hatLeast, ask_isNotNull_self hvalue hrecord, hless, hgreater,
      ask_notEqual_self hvalue hrecord, hbetween, hnotBetween,
      fun cs => ask_isIn_self hvalue hrecord, ask_search_self hvalue hrecord⟩
  · intro record items hrecord hmem
    refine ⟨ask_contains_item hvalue hrecord hmem, fun hsearch => ?_⟩
    exact (ask_contains_notContains_aborted ⟨_, hvalue⟩ hrecord hsearch).1

/-- A day is not found behind a moment that breaks off. -/
theorem not_contains_item_of_cutMoment :
    ¬ ∀ (options : RuleOptions) (kind : FieldType) (field : String) (value : Json)
      (v : FieldValue) (record : Json) (items : List Json),
        coerce options kind value = .ok (some v) →
        record.resolve field = some (.array items) → value ∈ items →
        ask options record field kind .contains value = .ok true := by
  intro h
  have hequal : ask {} (.holding "d" firstOfJune) "d" .dateTime .equal firstOfJune = .ok true := by
    decide +kernel
  obtain ⟨-, -, v, hv, -⟩ := (ask_equal_eq_true_iff (by decide +kernel)
    (Json.resolve_holding "d" firstOfJune)).mp hequal
  have hcontains := h {} .dateTime "d" firstOfJune v
    (.holding "d" (.array [cutMoment, firstOfJune])) [cutMoment, firstOfJune] hv
    (Json.resolve_holding "d" _) (by simp)
  exact absurd hcontains (by decide +kernel)

/-- A word of a capital and an accent, with neither counted. -/
theorem value_matches_itself_word :
    ask { compare := ⟨true, true⟩ } (.holding "name" (.string "Ne\u0301")) "name" .string .equal
      (.string "Ne\u0301") = .ok true ∧
    ask { compare := ⟨true, true⟩ } (.holding "name" (.string "Ne\u0301")) "name" .string .notIn
      (.array [.null, .string "Ne\u0301"]) = .ok false ∧
    ask { compare := ⟨true, true⟩ } (.holding "name" (.string "Ne\u0301")) "name" .string .endsWith
      (.string "Ne\u0301") = .ok true ∧
    ask { compare := ⟨true, true⟩ } (.holding "name" (.array [.null, .string "Ne\u0301"])) "name"
      .string .contains (.string "Ne\u0301") = .ok true := by
  have hword : coerce { compare := ⟨true, true⟩ } .string (.string "Ne\u0301") =
      .ok (some (.string "Ne\u0301")) := rfl
  obtain ⟨hvalue, hitem⟩ := value_matches_itself hword
  obtain ⟨hequal, -, -, -, -, -, -, -, -, hisIn, hsearch⟩ :=
    hvalue (.holding "name" (.string "Ne\u0301")) (Json.resolve_holding "name" _)
  obtain ⟨-, hnotIn⟩ := hisIn [.null, .string "Ne\u0301"] (by simp) (by decide +kernel)
  obtain ⟨-, -, hends⟩ := hsearch (by decide +kernel)
  obtain ⟨hcontains, -⟩ := hitem (.holding "name" (.array [.null, .string "Ne\u0301"]))
    [.null, .string "Ne\u0301"] (Json.resolve_holding "name" _) (by simp)
  exact ⟨hequal, hnotIn, hends, hcontains (not_searchBreaksOff (by decide +kernel))⟩

end FieldRule

end RecordSieve
