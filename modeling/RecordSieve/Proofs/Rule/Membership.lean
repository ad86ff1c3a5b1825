/-
RecordSieve.Proofs.Rule.Membership — In and Contains ask Equal, item by item.

In looks for the data among its operands, and Contains for its operand
among the items of an array.  Either way the answer is yes exactly if
Equal says yes for one of the items (`ask_isIn_eq_true_iff`,
`ask_contains_eq_true_iff`), so that it does not depend on their order or
on how often each is there, and an absent value matches nothing.

A negated operator says yes where Equal does for none of the items, if
there is an answer at all.  In has none if the data break off, as Equal
has none then.  Contains has none if it meets an item that breaks off
before it meets an equal one (`ask_contains_eq_aborted_iff`); this is the
one way in which the order of the items counts.
-/
import RecordSieve.Proofs.Rule.BreakOff
import RecordSieve.Proofs.Rule.Grammar
import RecordSieve.Proofs.Rule.Questions

namespace RecordSieve

namespace FieldRule

open Definition

variable {options : RuleOptions} {kind : FieldType} {record token c value : Json} {field : String}
  {cs items : List Json} {v w : FieldValue} {operands : List (Option FieldValue)}

/-! ## Operands -/

theorem exists_operandsOf_array (hcs : ∀ c ∈ cs, Coercible options kind c) :
    ∃ operands, operandsOf options kind (some (.array cs)) = .ok operands :=
  exists_operandsOf_iff.mpr (show ∀ c ∈ operandItems (some (.array cs)), _ from hcs)

/-- The operands that a list of values is read as are those that its items are read as. -/
theorem some_mem_operandsOf_iff
    (hoperands : operandsOf options kind (some (.array cs)) = .ok operands) :
    some w ∈ operands ↔ ∃ c ∈ cs, coerce options kind c = .ok (some w) := by
  cases cs with
  | nil =>
    cases hoperands
    simp
  | cons c cs =>
    have hmap : (c :: cs).mapM (coerce options kind) = .ok operands := hoperands
    constructor
    · intro hw
      exact exists_of_mem_mapM hmap hw
    · rintro ⟨a, ha, hw⟩
      exact mem_of_mapM_eq_ok hmap ha hw

theorem equalsAny_eq_true_iff
    (hoperands : operandsOf options kind (some (.array cs)) = .ok operands) :
    TestContext.equalsAny ⟨kind, operands, options⟩ v = true ↔
      ∃ c ∈ cs, ∃ w, coerce options kind c = .ok (some w) ∧ v.equal options.compare w = true := by
  simp only [TestContext.equalsAny, List.any_eq_true, Option.any_eq_true, TestContext.equal]
  constructor
  · rintro ⟨_, hmem, w, rfl, hequal⟩
    obtain ⟨c, hc, hw⟩ := (some_mem_operandsOf_iff hoperands).mp hmem
    exact ⟨c, hc, w, hw, hequal⟩
  · rintro ⟨c, hc, w, hw, hequal⟩
    exact ⟨some w, (some_mem_operandsOf_iff hoperands).mpr ⟨c, hc, hw⟩, w, rfl, hequal⟩

/-! ## Equal -/

theorem ask_equal_eq_true_iff (hc : Coercible options kind c)
    (htoken : record.resolve field = some token) :
    ask options record field kind .equal c = .ok true ↔
      ∃ v, coerceData options kind token = .ok (some v) ∧
        ∃ w, coerce options kind c = .ok (some w) ∧ v.equal options.compare w = true := by
  obtain ⟨operand, hoperand⟩ := hc
  rw [ask_equal (operandsOf_scalar hoperand) htoken, ofOutcome_eq_ok_iff, map_any_eq_true_iff,
    hoperand]
  cases operand <;> simp [TestContext.equalsFirst, TestContext.operand?, TestContext.equal]

/-- A question about what was read has no answer only if the data break off. -/
theorem ofOutcome_map_eq_error_iff {f : Option FieldValue → Bool}
    {failure : Failure CoercionError} :
    Attempt.ofOutcome ((coerceData options kind token).map f) = .error failure ↔
      failure = .aborted .offsetCut ∧ Coercion.BreaksOff options kind token := by
  rw [← @coerceData_eq_error_iff options kind token .offsetCut]
  rcases coerceData options kind token with ⟨⟨⟩⟩ | v
  · simp [Except.map, Attempt.ofOutcome, eq_comm]
  · simp [Except.map, Attempt.ofOutcome]

theorem ask_equal_eq_error_iff {failure : Failure CoercionError} (hc : Coercible options kind c)
    (htoken : record.resolve field = some token) :
    ask options record field kind .equal c = .error failure ↔
      failure = .aborted .offsetCut ∧ Coercion.BreaksOff options kind token := by
  obtain ⟨operand, hoperand⟩ := hc
  rw [ask_equal (operandsOf_scalar hoperand) htoken, ofOutcome_map_eq_error_iff]

/-- Absent data are equal to nothing, and nothing is equal to an absent operand. -/
theorem ask_equal_absent (hc : Coercible options kind c)
    (htoken : record.resolve field = some token)
    (h : coerceData options kind token = .ok none ∨ coerce options kind c = .ok none) :
    ask options record field kind .equal c ≠ .ok true := by
  rw [Ne, ask_equal_eq_true_iff hc htoken]
  rintro ⟨v, hv, w, hw, -⟩
  rcases h with h | h
  · cases h.symm.trans hv
  · cases h.symm.trans hw

/-! ## In -/

section

variable (hcs : ∀ c ∈ cs, Coercible options kind c) (htoken : record.resolve field = some token)

include hcs htoken

theorem ask_isIn_eq_true_iff : ask options record field kind .isIn (.array cs) = .ok true ↔
    ∃ c ∈ cs, ask options record field kind .equal c = .ok true := by
  obtain ⟨operands, hoperands⟩ := exists_operandsOf_array hcs
  rw [ask_isIn hoperands htoken, ofOutcome_eq_ok_iff, map_any_eq_true_iff]
  simp only [equalsAny_eq_true_iff hoperands]
  constructor
  · rintro ⟨v, hv, c, hc, hequal⟩
    exact ⟨c, hc, (ask_equal_eq_true_iff (hcs c hc) htoken).mpr ⟨v, hv, hequal⟩⟩
  · rintro ⟨c, hc, hask⟩
    obtain ⟨v, hv, hequal⟩ := (ask_equal_eq_true_iff (hcs c hc) htoken).mp hask
    exact ⟨v, hv, c, hc, hequal⟩

theorem ask_notIn : ask options record field kind .notIn (.array cs) =
    (ask options record field kind .isIn (.array cs)).map (!·) := by
  obtain ⟨operands, hoperands⟩ := exists_operandsOf_array hcs
  exact ask_negated hoperands htoken .isIn

theorem ask_isIn_eq_error_iff {failure : Failure CoercionError} :
    ask options record field kind .isIn (.array cs) = .error failure ↔
      failure = .aborted .offsetCut ∧ Coercion.BreaksOff options kind token := by
  obtain ⟨operands, hoperands⟩ := exists_operandsOf_array hcs
  rw [ask_isIn hoperands htoken, ofOutcome_map_eq_error_iff]

theorem ask_isIn_ne_error (hcalm : ¬ Coercion.BreaksOff options kind token)
    (failure : Failure CoercionError) :
    ask options record field kind .isIn (.array cs) ≠ .error failure := by
  intro h
  exact hcalm ((ask_isIn_eq_error_iff hcs htoken).mp h).2

theorem ask_notIn_eq_true_iff (hcalm : ¬ Coercion.BreaksOff options kind token) :
    ask options record field kind .notIn (.array cs) = .ok true ↔
      ∀ c ∈ cs, ask options record field kind .equal c ≠ .ok true := by
  rw [ask_notIn hcs htoken, map_not_eq_true_iff (ask_isIn_ne_error hcs htoken hcalm), Ne,
    ask_isIn_eq_true_iff hcs htoken]
  simp

/-- Where the data break off, In and Not In have no answer. -/
theorem ask_isIn_notIn_aborted (hbreak : Coercion.BreaksOff options kind token) :
    ask options record field kind .isIn (.array cs) = .error (.aborted .offsetCut) ∧
    ask options record field kind .notIn (.array cs) = .error (.aborted .offsetCut) := by
  have hask := (ask_isIn_eq_error_iff hcs htoken).mpr ⟨rfl, hbreak⟩
  refine ⟨hask, ?_⟩
  rw [ask_notIn hcs htoken, hask]
  rfl

/-- The order of the operands does not count, nor how often each is there. -/
theorem ask_isIn_congr {cs' : List Json} (hmem : ∀ c, c ∈ cs ↔ c ∈ cs') :
    ask options record field kind .isIn (.array cs) =
      ask options record field kind .isIn (.array cs') ∧
    ask options record field kind .notIn (.array cs) =
      ask options record field kind .notIn (.array cs') := by
  have hcs' : ∀ c ∈ cs', Coercible options kind c := fun c hc => hcs c ((hmem c).mpr hc)
  have hisIn : ask options record field kind .isIn (.array cs) =
      ask options record field kind .isIn (.array cs') := by
    by_cases hbreak : Coercion.BreaksOff options kind token
    · rw [(ask_isIn_notIn_aborted hcs htoken hbreak).1,
        (ask_isIn_notIn_aborted hcs' htoken hbreak).1]
    · refine eq_of_eq_true_iff (ask_isIn_ne_error hcs htoken hbreak)
        (ask_isIn_ne_error hcs' htoken hbreak) ?_
      simp only [ask_isIn_eq_true_iff hcs htoken, ask_isIn_eq_true_iff hcs' htoken, hmem]
  refine ⟨hisIn, ?_⟩
  rw [ask_notIn hcs htoken, ask_notIn hcs' htoken, hisIn]

end

/-! ## Contains -/

/-- Contains meets an item that breaks off, and none before it is equal
to the operand; an absent operand meets no item. -/
def SearchBreaksOff (options : RuleOptions) (field : String) (kind : FieldType) (c : Json)
    (items : List Json) : Prop :=
  (∃ w, coerce options kind c = .ok (some w)) ∧
    Reaches (fun item => ask options (.holding field item) field kind .equal c = .ok false)
      (Coercion.BreaksOff options kind) items

theorem not_searchBreaksOff (h : ∀ item ∈ items, ¬ Coercion.BreaksOff options kind item) :
    ¬ SearchBreaksOff options field kind c items := by
  rintro ⟨-, before, item, after, rfl, -, hitem⟩
  exact h item (by simp) hitem

section

variable (hc : Coercible options kind c) (htoken : record.resolve field = some (.array items))

include hc htoken

theorem ask_contains_eq_error_iff {failure : Failure CoercionError} :
    ask options record field kind .contains c = .error failure ↔
      failure = .aborted .offsetCut ∧ SearchBreaksOff options field kind c items := by
  obtain ⟨_ | w, hw⟩ := hc
  · rw [ask_contains_absent hw htoken, SearchBreaksOff, hw]
    simp
  · have hitem : ∀ item ∈ items,
        ask options (.holding field item) field kind .equal c = .error failure ↔
          failure = .aborted .offsetCut ∧ Coercion.BreaksOff options kind item :=
      fun item _ => ask_equal_eq_error_iff ⟨_, hw⟩ (Json.resolve_holding field item)
    rw [ask_contains_array hw htoken, anyM_eq_error_iff, reaches_congr hitem]
    constructor
    · rintro ⟨before, item, after, hitems, hbefore, hfailure, hbreak⟩
      exact ⟨hfailure, ⟨w, hw⟩, before, item, after, hitems, hbefore, hbreak⟩
    · rintro ⟨hfailure, -, before, item, after, hitems, hbefore, hbreak⟩
      exact ⟨before, item, after, hitems, hbefore, hfailure, hbreak⟩

theorem ask_notContains : ask options record field kind .notContains c =
    (ask options record field kind .contains c).map (!·) := by
  obtain ⟨operand, hoperand⟩ := hc
  exact ask_negated (operandsOf_scalar hoperand) htoken .contains

theorem ask_contains_ne_error (hsearch : ¬ SearchBreaksOff options field kind c items)
    (failure : Failure CoercionError) :
    ask options record field kind .contains c ≠ .error failure := by
  intro h
  exact hsearch ((ask_contains_eq_error_iff hc htoken).mp h).2

theorem ask_contains_eq_true_iff (hsearch : ¬ SearchBreaksOff options field kind c items) :
    ask options record field kind .contains c = .ok true ↔
      ∃ item ∈ items, ask options (.holding field item) field kind .equal c = .ok true := by
  have hanswer := ask_contains_ne_error hc htoken hsearch
  obtain ⟨_ | w, hw⟩ := hc
  · have hitem : ∀ item, ask options (.holding field item) field kind .equal c ≠ .ok true :=
      fun item => ask_equal_absent ⟨_, hw⟩ (Json.resolve_holding field item) (.inr hw)
    rw [ask_contains_absent hw htoken]
    simp [hitem]
  · rw [ask_contains_array hw htoken] at hanswer ⊢
    exact anyM_eq_true_iff_exists hanswer

theorem ask_notContains_eq_true_iff (hsearch : ¬ SearchBreaksOff options field kind c items) :
    ask options record field kind .notContains c = .ok true ↔
      ∀ item ∈ items, ask options (.holding field item) field kind .equal c ≠ .ok true := by
  rw [ask_notContains hc htoken, map_not_eq_true_iff (ask_contains_ne_error hc htoken hsearch), Ne,
    ask_contains_eq_true_iff hc htoken hsearch]
  simp

/-- Where the search breaks off, Contains and Not Contains have no answer. -/
theorem ask_contains_notContains_aborted
    (hsearch : SearchBreaksOff options field kind c items) :
    ask options record field kind .contains c = .error (.aborted .offsetCut) ∧
    ask options record field kind .notContains c = .error (.aborted .offsetCut) := by
  have hask := (ask_contains_eq_error_iff hc htoken).mpr ⟨rfl, hsearch⟩
  refine ⟨hask, ?_⟩
  rw [ask_notContains hc htoken, hask]
  rfl

/-- The order of the items does not count, nor how often each is there,
if none breaks off. -/
theorem ask_contains_congr {record' : Json} {items' : List Json}
    (htoken' : record'.resolve field = some (.array items'))
    (hitems : ∀ item ∈ items, ¬ Coercion.BreaksOff options kind item)
    (hmem : ∀ item, item ∈ items ↔ item ∈ items') :
    ask options record field kind .contains c = ask options record' field kind .contains c ∧
    ask options record field kind .notContains c =
      ask options record' field kind .notContains c := by
  have hsearch : ¬ SearchBreaksOff options field kind c items := not_searchBreaksOff hitems
  have hsearch' : ¬ SearchBreaksOff options field kind c items' :=
    not_searchBreaksOff fun item h => hitems item ((hmem item).mpr h)
  have hcontains : ask options record field kind .contains c =
      ask options record' field kind .contains c := by
    refine eq_of_eq_true_iff (ask_contains_ne_error hc htoken hsearch)
      (ask_contains_ne_error hc htoken' hsearch') ?_
    simp only [ask_contains_eq_true_iff hc htoken hsearch,
      ask_contains_eq_true_iff hc htoken' hsearch', hmem]
  refine ⟨hcontains, ?_⟩
  rw [ask_notContains hc htoken, ask_notContains hc htoken', hcontains]

end

/-! ## Membership -/

/-- A moment whose offset is cut between the bytes of a digit. -/
def cutMoment : Json := .string "2019-06-01 08:00 +\u0966\u096B"

def firstOfJune : Json := .string "2019-06-01"

/-- In is Equal asked of the operands and Contains is Equal asked of the
items of an array: they say yes if Equal does for one of them, and their
negations if Equal does for none.  Absent values, null among them, are
equal to nothing on either side, and neither the order of the operands or
items counts nor how often each is there.  Without an answer are In on
data that break off and Contains on an array whose items break off before
one is equal to the operand. -/
theorem membership (options : RuleOptions) (kind : FieldType) (field : String) :
    (∀ record token cs, record.resolve field = some token →
      (∀ c ∈ cs, Coercible options kind c) →
      (ask options record field kind .isIn (.array cs) = .ok true ↔
        ∃ c ∈ cs, ask options record field kind .equal c = .ok true) ∧
      (¬ Coercion.BreaksOff options kind token →
        (ask options record field kind .notIn (.array cs) = .ok true ↔
          ∀ c ∈ cs, ask options record field kind .equal c ≠ .ok true)) ∧
      (Coercion.BreaksOff options kind token →
        ask options record field kind .isIn (.array cs) = .error (.aborted .offsetCut) ∧
        ask options record field kind .notIn (.array cs) = .error (.aborted .offsetCut)) ∧
      ∀ cs', (∀ c, c ∈ cs ↔ c ∈ cs') →
        ask options record field kind .isIn (.array cs) =
          ask options record field kind .isIn (.array cs') ∧
        ask options record field kind .notIn (.array cs) =
          ask options record field kind .notIn (.array cs')) ∧
    (∀ record items c, record.resolve field = some (.array items) → Coercible options kind c →
      (¬ SearchBreaksOff options field kind c items →
        (ask options record field kind .contains c = .ok true ↔
          ∃ item ∈ items, ask options (.holding field item) field kind .equal c = .ok true) ∧
        (ask options record field kind .notContains c = .ok true ↔
          ∀ item ∈ items, ask options (.holding field item) field kind .equal c ≠ .ok true)) ∧
      (SearchBreaksOff options field kind c items →
        ask options record field kind .contains c = .error (.aborted .offsetCut) ∧
        ask options record field kind .notContains c = .error (.aborted .offsetCut)) ∧
      ((∀ item ∈ items, ¬ Coercion.BreaksOff options kind item) →
        ∀ record' items', record'.resolve field = some (.array items') →
        (∀ item, item ∈ items ↔ item ∈ items') →
          ask options record field kind .contains c = ask options record' field kind .contains c ∧
          ask options record field kind .notContains c =
            ask options record' field kind .notContains c)) ∧
    (∀ record token c, record.resolve field = some token → Coercible options kind c →
      coerceData options kind token = .ok none ∨ coerce options kind c = .ok none →
      ask options record field kind .equal c ≠ .ok true) ∧
    coerceData options kind .null = .ok none ∧ coerce options kind .null = .ok none := by
  refine ⟨?_, ?_, ?_, ?_⟩
  · intro record token cs htoken hcs
    exact ⟨ask_isIn_eq_true_iff hcs htoken, ask_notIn_eq_true_iff hcs htoken,
      ask_isIn_notIn_aborted hcs htoken, fun cs' => ask_isIn_congr hcs htoken⟩
  · intro record items c htoken hc
    refine ⟨fun hsearch => ⟨?_, ?_⟩, ask_contains_notContains_aborted hc htoken, ?_⟩
    · exact ask_contains_eq_true_iff hc htoken hsearch
    · exact ask_notContains_eq_true_iff hc htoken hsearch
    · intro hitems record' items' htoken' hmem
      exact ask_contains_congr hc htoken htoken' hitems hmem
  · intro record token c htoken hc
    exact ask_equal_absent hc htoken
  · cases kind <;> exact ⟨rfl, rfl⟩

/-- An item that breaks off keeps Contains from the equal item behind it. -/
theorem not_contains_iff_of_cutMoment :
    ¬ ∀ (options : RuleOptions) (kind : FieldType) (field : String) (record : Json)
      (items : List Json) (c : Json), record.resolve field = some (.array items) →
        Coercible options kind c →
        (ask options record field kind .contains c = .ok true ↔
          ∃ item ∈ items, ask options (.holding field item) field kind .equal c = .ok true) := by
  intro h
  have hcontains := h {} .dateTime "d" (.holding "d" (.array [cutMoment, firstOfJune]))
    [cutMoment, firstOfJune] firstOfJune (Json.resolve_holding "d" _) (by decide +kernel)
  exact absurd (hcontains.mpr ⟨firstOfJune, by simp, by decide +kernel⟩) (by decide +kernel)

/-- Tags are looked for with case ignored, and a day among moments. -/
theorem membership_tags :
    ask { compare := ⟨true, false⟩ } (.holding "tag" (.string "B")) "tag" .string .isIn
      (.array [.string "a", .null, .string "b"]) = .ok true ∧
    ask { compare := ⟨true, false⟩ } (.holding "tag" (.string "B")) "tag" .string .notIn
      (.array [.string "a", .null]) = .ok true ∧
    ask { compare := ⟨true, false⟩ } (.holding "tag" (.array [.null, .string "B", .array []])) "tag"
      .string .contains (.string "b") = .ok true ∧
    ask {} (.holding "d" cutMoment) "d" .dateTime .notIn (.array [firstOfJune]) =
      .error (.aborted .offsetCut) ∧
    ask {} (.holding "d" (.array [cutMoment, firstOfJune])) "d" .dateTime .contains firstOfJune =
      .error (.aborted .offsetCut) ∧
    ask {} (.holding "d" .null) "d" .dateTime .equal firstOfJune ≠ .ok true ∧
    ask {} (.holding "d" (.array [.null, firstOfJune])) "d" .dateTime .notContains firstOfJune =
      ask {} (.holding "d" (.array [firstOfJune, .null, .null])) "d" .dateTime .notContains
        firstOfJune := by
  obtain ⟨hisIn, hcontains, -⟩ := membership { compare := ⟨true, false⟩ } .string "tag"
  obtain ⟨hisInDate, hcontainsDate, habsent, hnull, -⟩ := membership {} .dateTime "d"
  refine ⟨?_, ?_, ?_, ?_, ?_, ?_, ?_⟩
  · obtain ⟨hiff, -⟩ := hisIn _ (.string "B") [.string "a", .null, .string "b"]
      (Json.resolve_holding "tag" _) (by decide +kernel)
    exact hiff.mpr ⟨.string "b", by simp, by decide +kernel⟩
  · obtain ⟨-, hiff, -⟩ := hisIn _ (.string "B") [.string "a", .null]
      (Json.resolve_holding "tag" _) (by decide +kernel)
    exact (hiff (by decide +kernel)).mpr (by decide +kernel)
  · obtain ⟨hiff, -⟩ := hcontains _ [.null, .string "B", .array []] (.string "b")
      (Json.resolve_holding "tag" _) (by decide +kernel)
    have hsearch : ¬ SearchBreaksOff { compare := ⟨true, false⟩ } "tag" .string (.string "b")
        [.null, .string "B", .array []] := not_searchBreaksOff (by decide +kernel)
    exact (hiff hsearch).1.mpr ⟨.string "B", by simp, by decide +kernel⟩
  · obtain ⟨-, -, haborted, -⟩ := hisInDate _ cutMoment [firstOfJune]
      (Json.resolve_holding "d" _) (by decide +kernel)
    exact (haborted (by decide +kernel)).2
  · obtain ⟨-, haborted, -⟩ := hcontainsDate _ [cutMoment, firstOfJune] firstOfJune
      (Json.resolve_holding "d" _) (by decide +kernel)
    have hequal : ask {} (.holding "d" firstOfJune) "d" .dateTime .equal firstOfJune = .ok true := by
      decide +kernel
    obtain ⟨-, -, w, hw, -⟩ := (ask_equal_eq_true_iff (by decide +kernel)
      (Json.resolve_holding "d" firstOfJune)).mp hequal
    exact (haborted ⟨⟨w, hw⟩, [], cutMoment, [firstOfJune], rfl, by simp, by decide +kernel⟩).1
  · exact habsent _ .null firstOfJune (Json.resolve_holding "d" _) (by decide +kernel) (.inl hnull)
  · obtain ⟨-, -, horder⟩ := hcontainsDate _ [.null, firstOfJune] firstOfJune
      (Json.resolve_holding "d" _) (by decide +kernel)
    exact (horder (by decide +kernel) _ [firstOfJune, .null, .null] (Json.resolve_holding "d" _)
      (by simp [or_comm])).2

end FieldRule

end RecordSieve
