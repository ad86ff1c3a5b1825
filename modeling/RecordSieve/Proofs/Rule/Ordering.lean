/-
RecordSieve.Proofs.Rule.Ordering — the operators that compare.

Less, Equal and Greater ask for the three outcomes of one comparison, so
that exactly one of them holds.  The other four operators have no
comparison of their own: at most is the negation of Greater, at least
that of Less, and Between asks twice.  That they mean what their names
say rests on two facts about values of one type: they always compare,
and their order is a total preorder.

`FieldRule.ask` puts one question: a rule is made of an operator and an
operand value, and asked about a record.
-/
import RecordSieve.Proofs.Rule.Tests
import RecordSieve.Proofs.Value.Order

namespace RecordSieve

variable {options : RuleOptions} {kind : FieldType} {record token : Json} {field : String}

/-! ## Values and operands -/

/-- An array is no value of any type, and not an absent one. -/
theorem ne_array_of_coerce {value : Json} {c : Option FieldValue}
    (h : coerce options kind value = .ok c) (items : List Json) : value ≠ .array items := by
  rintro rfl
  cases kind <;> cases h

namespace TestContext

variable {ctx : TestContext} {v c low high : FieldValue}

/-- Nothing lies between two values in the wrong order. -/
theorem liesBetween_eq_false (h : low.order? ctx.options.compare high = some .gt) :
    ctx.liesBetween low high v = false := by
  refine Bool.eq_false_iff.mpr fun hbetween => ?_
  simp only [liesBetween, Bool.and_eq_true, Bool.or_eq_true, beq_iff_eq] at hbetween
  obtain ⟨hlow, hhigh⟩ := hbetween
  have hfromLow : ∃ o, low.order? ctx.options.compare v = some o ∧ o.isLE = true := by
    rw [FieldValue.order?_swap ctx.options.compare v low]
    rcases hlow with hlow | hlow <;> exact ⟨_, by rw [hlow]; rfl, rfl⟩
  have htoHigh : ∃ o, v.order? ctx.options.compare high = some o ∧ o.isLE = true := by
    rcases hhigh with hhigh | hhigh <;> exact ⟨_, hhigh, rfl⟩
  obtain ⟨o, ho, hole⟩ := hfromLow
  obtain ⟨o', ho', hole'⟩ := htoHigh
  obtain ⟨o'', ho'', hle⟩ := FieldValue.order?_isLE_trans ho hole ho' hole'
  rw [h] at ho''
  cases ho''
  cases hle

end TestContext

/-! ## Tests on a value that was read -/

namespace OperatorFamily

variable {ctx : TestContext} {v c low high : FieldValue} {o : Ordering}

theorem holds_equal (hv : ctx.read token = .ok (some v)) (hc : ctx.operand? 0 = some c)
    (ho : v.order? ctx.options.compare c = some o) : equal.holds ctx token = .ok (o == .eq) := by
  rw [holds, TestContext.equals_eq_map, hv]
  show Except.ok (ctx.equalsFirst v) = _
  rw [TestContext.equalsFirst, hc, Option.any_some, TestContext.equal, FieldValue.equal, ho,
    Option.some_beq_some]

theorem holds_less (hv : ctx.read token = .ok (some v)) (hc : ctx.operand? 0 = some c)
    (ho : v.order? ctx.options.compare c = some o) : less.holds ctx token = .ok (o == .lt) := by
  rw [holds, TestContext.compareFirst?_eq_map, hv]
  show Except.ok (ctx.orderFirst? v == some .lt) = _
  rw [TestContext.orderFirst?, hc, Option.bind_some, ho, Option.some_beq_some]

theorem holds_greater (hv : ctx.read token = .ok (some v)) (hc : ctx.operand? 0 = some c)
    (ho : v.order? ctx.options.compare c = some o) : greater.holds ctx token = .ok (o == .gt) := by
  rw [holds, TestContext.compareFirst?_eq_map, hv]
  show Except.ok (ctx.orderFirst? v == some .gt) = _
  rw [TestContext.orderFirst?, hc, Option.bind_some, ho, Option.some_beq_some]

/-- A value lies between two others if it is not less than the first and
not greater than the second. -/
theorem holds_between {fromLow toHigh : Ordering} (hv : ctx.read token = .ok (some v))
    (hlow : ctx.operand? 0 = some low) (hhigh : ctx.operand? 1 = some high)
    (hfrom : v.order? ctx.options.compare low = some fromLow)
    (hto : v.order? ctx.options.compare high = some toHigh) :
    between.holds ctx token = .ok ((fromLow != .lt) && (toHigh != .gt)) := by
  rw [holds, TestContext.isBetween_of_operands hlow hhigh, hv]
  show Except.ok (ctx.liesBetween low high v) = _
  rw [TestContext.liesBetween, hfrom, hto]
  cases fromLow <;> cases toHigh <;> rfl

/-- Between operands in the wrong order nothing is found. -/
theorem holds_between_eq_false (hlow : ctx.operand? 0 = some low)
    (hhigh : ctx.operand? 1 = some high) (h : low.order? ctx.options.compare high = some .gt)
    {b : Bool} (hb : between.holds ctx token = .ok b) : b = false := by
  rw [holds, TestContext.isBetween_of_operands hlow hhigh] at hb
  rcases hread : ctx.read token with abort | _ | v
  · rw [hread] at hb
    cases hb
  · rw [hread] at hb
    cases hb
    rfl
  · rw [hread] at hb
    cases hb
    exact TestContext.liesBetween_eq_false h

end OperatorFamily

/-! ## Questions -/

namespace FieldRule

variable {value low high : Json} {v c lowValue highValue : FieldValue} {op : Operator}
  {operands : List (Option FieldValue)} {b : Bool}

/-- Whether a field of a record stands to an operand value as an operator says. -/
def ask (options : RuleOptions) (record : Json) (field : String) (kind : FieldType)
    (op : Operator) (value : Json) : Attempt CoercionError Bool := do
  let r ← (new field kind op).assign options (some value)
  Attempt.ofOutcome (r.evaluate options record)

theorem operandsOf_scalar {c : Option FieldValue} (h : coerce options kind value = .ok c) :
    operandsOf options kind (some value) = .ok [c] := by
  unfold operandsOf
  split
  · next heq => cases heq
  · next heq => exact absurd (Option.some.inj heq) (ne_array_of_coerce h [])
  · next items _ heq => exact absurd (Option.some.inj heq) (ne_array_of_coerce h items)
  · next heq =>
    cases heq
    rw [h]
    rfl

theorem operandsOf_pair (hlow : coerce options kind low = .ok (some lowValue))
    (hhigh : coerce options kind high = .ok (some highValue)) :
    operandsOf options kind (some (.array [low, high])) =
      .ok [some lowValue, some highValue] := by
  rw [operandsOf]
  · rw [List.mapM_cons, hlow, List.mapM_cons, hhigh]
    rfl
  · simp

theorem ask_eq (hoperands : operandsOf options kind (some value) = .ok operands) :
    ask options record field kind op value = Attempt.ofOutcome
      (evaluate options record ⟨field, kind, op.split.1, op.split.2, some value, operands⟩) := by
  have hkind : (new field kind op).kind = kind := rfl
  rw [ask, assign, hkind, hoperands]
  rfl

/-- A record that has the field is put to the operator's test. -/
theorem ask_of_token (hoperands : operandsOf options kind (some value) = .ok operands)
    (htoken : record.resolve field = some token) :
    ask options record field kind op value = Attempt.ofOutcome
      ((op.split.1.holds ⟨kind, operands, options⟩ token).map (· != op.split.2)) := by
  rw [ask_eq hoperands]
  exact congrArg Attempt.ofOutcome (@evaluate_of_token options record token
    ⟨field, kind, op.split.1, op.split.2, some value, operands⟩ htoken)

theorem ask_of_holds {family : OperatorFamily} {negated : Bool}
    (hop : op.split = (family, negated))
    (hoperands : operandsOf options kind (some value) = .ok operands)
    (htoken : record.resolve field = some token)
    (hholds : family.holds ⟨kind, operands, options⟩ token = .ok b) :
    ask options record field kind op value = .ok (b != negated) := by
  rw [ask_of_token hoperands htoken, hop, hholds]
  rfl

/-- A record without the field gets the answer that the family gives to those. -/
theorem ask_of_missing (hoperands : operandsOf options kind (some value) = .ok operands)
    (hmissing : record.resolve field = none) :
    ask options record field kind op value =
      .ok (op.split.1.holdsMissing op.split.2 ⟨kind, operands, options⟩) := by
  rw [ask_eq hoperands]
  exact congrArg Attempt.ofOutcome (@evaluate_of_missing options record
    ⟨field, kind, op.split.1, op.split.2, some value, operands⟩ hmissing)

/-- Between operands in the wrong order holds for no record. -/
theorem ask_between_ne_true (hlow : coerce options kind low = .ok (some lowValue))
    (hhigh : coerce options kind high = .ok (some highValue))
    (h : lowValue.order? options.compare highValue = some .gt) :
    ask options record field kind .between (.array [low, high]) ≠ .ok true := by
  intro hask
  have hoperands := operandsOf_pair hlow hhigh
  have hsplit : Operator.between.split = (.between, false) := rfl
  cases htoken : record.resolve field with
  | none =>
    rw [ask_of_missing hoperands htoken, hsplit] at hask
    cases hask
  | some token =>
    rw [ask_of_token hoperands htoken, hsplit] at hask
    cases hanswer : OperatorFamily.between.holds
        ⟨kind, [some lowValue, some highValue], options⟩ token with
    | error abort =>
      rw [hanswer] at hask
      cases hask
    | ok b =>
      have hfirst : TestContext.operand? ⟨kind, [some lowValue, some highValue], options⟩ 0 =
          some lowValue := rfl
      have hb : b = false := OperatorFamily.holds_between_eq_false hfirst rfl h hanswer
      rw [hanswer, hb] at hask
      cases hask

/-! ## Coherence -/

/-- The answers that the comparison of the data with an operand decides. -/
theorem ask_of_order {o : Ordering} (hc : coerce options kind value = .ok (some c))
    (htoken : record.resolve field = some token)
    (hv : coerceData options kind token = .ok (some v))
    (ho : v.order? options.compare c = some o) :
    ask options record field kind .less value = .ok (o == .lt) ∧
    ask options record field kind .equal value = .ok (o == .eq) ∧
    ask options record field kind .greater value = .ok (o == .gt) ∧
    ask options record field kind .greaterOrEqual value = .ok (o != .lt) ∧
    ask options record field kind .lessOrEqual value = .ok (o != .gt) := by
  have hoperands := operandsOf_scalar hc
  have hless : OperatorFamily.less.holds ⟨kind, [some c], options⟩ token = .ok (o == .lt) :=
    OperatorFamily.holds_less hv rfl ho
  have hequal : OperatorFamily.equal.holds ⟨kind, [some c], options⟩ token = .ok (o == .eq) :=
    OperatorFamily.holds_equal hv rfl ho
  have hgreater : OperatorFamily.greater.holds ⟨kind, [some c], options⟩ token = .ok (o == .gt) :=
    OperatorFamily.holds_greater hv rfl ho
  refine ⟨?_, ?_, ?_, ?_, ?_⟩
  · refine Eq.trans (ask_of_holds rfl hoperands htoken hless) ?_
    cases o <;> rfl
  · refine Eq.trans (ask_of_holds rfl hoperands htoken hequal) ?_
    cases o <;> rfl
  · refine Eq.trans (ask_of_holds rfl hoperands htoken hgreater) ?_
    cases o <;> rfl
  · refine Eq.trans (ask_of_holds rfl hoperands htoken hless) ?_
    cases o <;> rfl
  · refine Eq.trans (ask_of_holds rfl hoperands htoken hgreater) ?_
    cases o <;> rfl

/-- The operators that compare, asked with three operands that denote
values of the field's type.  For a record whose field denotes one too,
exactly one of Less, Equal and Greater holds; at most is Less or Equal,
and at least is Greater or Equal; Between is at least the first and at
most the second, and Not Between is its opposite.  Between operands in
the wrong order holds for no record at all. -/
theorem ask_ordering {c lo hi : Json} {cValue loValue hiValue : FieldValue}
    (hc : coerce options kind c = .ok (some cValue))
    (hlo : coerce options kind lo = .ok (some loValue))
    (hhi : coerce options kind hi = .ok (some hiValue)) :
    (∀ record token v, record.resolve field = some token →
      coerceData options kind token = .ok (some v) →
      ∃ less equal greater atLeast atMost : Bool,
        ask options record field kind .less c = .ok less ∧
        ask options record field kind .equal c = .ok equal ∧
        ask options record field kind .greater c = .ok greater ∧
        [less, equal, greater].count true = 1 ∧
        ask options record field kind .lessOrEqual c = .ok (less || equal) ∧
        ask options record field kind .greaterOrEqual c = .ok (greater || equal) ∧
        ask options record field kind .greaterOrEqual lo = .ok atLeast ∧
        ask options record field kind .lessOrEqual hi = .ok atMost ∧
        ask options record field kind .between (.array [lo, hi]) = .ok (atLeast && atMost) ∧
        ask options record field kind .notBetween (.array [lo, hi]) =
          .ok (!(atLeast && atMost))) ∧
    (loValue.order? options.compare hiValue = some .gt →
      ∀ record, ask options record field kind .between (.array [lo, hi]) ≠ .ok true) := by
  refine ⟨?_, fun h record => ask_between_ne_true hlo hhi h⟩
  intro record token v htoken hv
  have hkind := kind_of_coerceData hv
  -- There is a comparison with each operand, because the types agree.
  obtain ⟨o, ho⟩ : ∃ o, v.order? options.compare cValue = some o :=
    FieldValue.exists_order? (hkind.trans (kind_of_coerce hc).symm)
  obtain ⟨oLo, hoLo⟩ : ∃ o, v.order? options.compare loValue = some o :=
    FieldValue.exists_order? (hkind.trans (kind_of_coerce hlo).symm)
  obtain ⟨oHi, hoHi⟩ : ∃ o, v.order? options.compare hiValue = some o :=
    FieldValue.exists_order? (hkind.trans (kind_of_coerce hhi).symm)
  obtain ⟨hless, hequal, hgreater, hatLeast, hatMost⟩ := ask_of_order hc htoken hv ho
  obtain ⟨-, -, -, hatLeastLo, -⟩ := ask_of_order hlo htoken hv hoLo
  obtain ⟨-, -, -, -, hatMostHi⟩ := ask_of_order hhi htoken hv hoHi
  have hbetween : OperatorFamily.between.holds
      ⟨kind, [some loValue, some hiValue], options⟩ token = .ok ((oLo != .lt) && (oHi != .gt)) :=
    OperatorFamily.holds_between hv rfl rfl hoLo hoHi
  refine ⟨o == .lt, o == .eq, o == .gt, oLo != .lt, oHi != .gt, hless, hequal, hgreater, ?_,
    ?_, ?_, hatLeastLo, hatMostHi, ?_, ?_⟩
  · cases o <;> rfl
  · rw [hatMost]
    cases o <;> rfl
  · rw [hatLeast]
    cases o <;> rfl
  · refine Eq.trans (ask_of_holds rfl (operandsOf_pair hlo hhi) htoken hbetween) ?_
    cases oLo <;> cases oHi <;> rfl
  · refine Eq.trans (ask_of_holds rfl (operandsOf_pair hlo hhi) htoken hbetween) ?_
    cases oLo <;> cases oHi <;> rfl

/-- A name is compared with case and accents ignored, and the ends of a
range stand the wrong way round. -/
theorem ask_ordering_name :
    (∃ less greater : Bool,
      ask { compare := ⟨true, true⟩ } (.ofMembers [("name", .string "zo\u00EB")]) "name" .string
        .less (.string "ZOE") = .ok less ∧
      ask { compare := ⟨true, true⟩ } (.ofMembers [("name", .string "zo\u00EB")]) "name" .string
        .greater (.string "ZOE") = .ok greater ∧
      [less, true, greater].count true = 1) ∧
    ∀ record, ask { compare := ⟨true, true⟩ } record "name" .string .between
      (.array [.string "Zorro", .string "adam"]) ≠ .ok true := by
  obtain ⟨hanswers, hwrong⟩ := @ask_ordering { compare := ⟨true, true⟩ } .string "name"
    (.string "ZOE") (.string "Zorro") (.string "adam")
    (.string "ZOE") (.string "Zorro") (.string "adam") rfl rfl rfl
  obtain ⟨less, equal, greater, -, -, hless, hequal, hgreater, hone, -⟩ :=
    hanswers (.ofMembers [("name", .string "zo\u00EB")]) (.string "zo\u00EB")
      (.string "zo\u00EB") rfl rfl
  have hvalue : ask { compare := ⟨true, true⟩ } (.ofMembers [("name", .string "zo\u00EB")]) "name"
      .string .equal (.string "ZOE") = .ok true := by
    decide +kernel
  rw [hvalue, Except.ok.injEq] at hequal
  subst hequal
  exact ⟨⟨less, greater, hless, hgreater, hone⟩, hwrong (by decide +kernel)⟩

end FieldRule

end RecordSieve
