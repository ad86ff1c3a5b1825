/-
RecordSieve.Proofs.Rule.OperandKind — values have the type they were
coerced to.

A coercion that does not break off is refused, or gives an absent value,
or a value of the type that was asked for (`settled_iff`).  A value of
type Double is the finite double that the JSON value denotes, and there
is none for a text of an infinity, of a number that rounds to one, or of
no number (`coerce_double_iff`).

The type of a rule never changes and a call sets all operands or none, so
the operands of a rule are of its type whatever calls it has seen: a call
preserves that (`operandsOfKind_after`), and so does a run of calls.  Two
values of one type compare, and a comparison with an operand is then
never without an answer.
-/
import RecordSieve.Proofs.Decimal.FiniteDouble
import RecordSieve.Proofs.Rule.Assignment
import RecordSieve.Proofs.Value.Coercion
import RecordSieve.Proofs.Value.Order

namespace RecordSieve

open Text Decimal

variable {options : RuleOptions} {kind : FieldType} {value : Json}

/-! ## Outcomes of coercion -/

/-- The outcome is a refusal, an absent value or a value of the type. -/
def Settled (kind : FieldType) (outcome : Attempt CoercionError (Option FieldValue)) : Prop :=
  (∃ cause, outcome = Attempt.refuse cause) ∨ outcome = .ok none ∨
    ∃ v, outcome = .ok (some v) ∧ v.kind = kind

theorem not_settled_aborted {abort : Abort} : ¬ Settled kind (.error (.aborted abort)) := by
  rintro (⟨cause, h⟩ | h | ⟨v, h, -⟩)
  · cases h
  · cases h
  · cases h

/-- A coercion is settled unless it breaks off. -/
theorem settled_iff : Settled kind (coerce options kind value) ↔
    ¬ Coercion.BreaksOff options kind value := by
  rw [← @coerce_eq_aborted_iff options kind value .offsetCut]
  rcases h : coerce options kind value with ⟨cause | ⟨⟩⟩ | _ | v
  · exact iff_of_true (.inl ⟨cause, rfl⟩) (by simp)
  · exact iff_of_false not_settled_aborted (by simp)
  · exact iff_of_true (.inr (.inl rfl)) (by simp)
  · exact iff_of_true (.inr (.inr ⟨v, rfl, kind_of_coerce h⟩)) (by simp)

/-! ## Doubles -/

/-- The finite double that a JSON value denotes, if there is one. -/
inductive DoubleOf : Json → Binary64 → Prop
  | double (x : Binary64) : DoubleOf (.number (.double x)) x
  /-- An integer is rounded. -/
  | integer {i : ℤ} {h : JsonInteger i} {x : Binary64} :
      Binary64.ofRatio (i < 0) i.natAbs 1 = some x → DoubleOf (.number (.integer i h)) x
  | text {s : String} {x : Binary64} : readLiteral? (trim s.toList) = some (.finite x) →
      DoubleOf (.string s) x
  | true : DoubleOf (.bool true) .one
  | false : DoubleOf (.bool false) .zero

theorem doubleOf_number_iff {n : JsonNumber} {x : Binary64} :
    DoubleOf (.number n) x ↔ n.toBinary64 = x := by
  cases n with
  | double y =>
    constructor
    · intro h
      cases h
      rfl
    · rintro rfl
      exact .double y
  | integer i hi =>
    obtain ⟨y, hy, hof⟩ := Binary64.exists_ofInt hi
    constructor
    · intro h
      cases h with
      | integer hx => exact hof.trans (Option.some.inj (hy.symm.trans hx))
    · rintro rfl
      exact .integer (hy.trans (congrArg some hof.symm))

theorem readFinite?_eq_some_iff {cs : List Char} {x : Binary64} :
    readFinite? cs = some x ↔ readLiteral? cs = some (.finite x) := by
  unfold readFinite?
  rcases readLiteral? cs with _ | (y | negative | _) <;> simp

theorem coerce_double_string (s : String) : coerce options .double (.string s) =
    if isAllBlank s.toList then .ok none
    else (Attempt.ofOption (.invalid .double s) (readFinite? (trim s.toList))).map
      fun x => some (.double x) := by
  have habsent : Coercion.isAbsent .double (.string s) = isAllBlank s.toList := Bool.true_and _
  unfold coerce Coercion.present Coercion.toDouble
  rw [habsent]
  dsimp only
  cases readFinite? (trim s.toList) <;> rfl

theorem coerce_double_iff {x : Binary64} :
    coerce options .double value = .ok (some (.double x)) ↔ DoubleOf value x := by
  cases value with
  | null => exact iff_of_false nofun nofun
  | array items => exact iff_of_false nofun nofun
  | object members => exact iff_of_false nofun nofun
  | number n =>
    have hcoerce : coerce options .double (.number n) = .ok (some (.double n.toBinary64)) := rfl
    rw [hcoerce, doubleOf_number_iff]
    simp
  | bool b =>
    have hcoerce : coerce options .double (.bool b) =
        .ok (some (.double (if b then .one else .zero))) := rfl
    rw [hcoerce]
    constructor
    · intro h
      cases h
      cases b
      · exact .false
      · exact .true
    · intro h
      cases h <;> rfl
  | string s =>
    have hdenotes : DoubleOf (.string s) x ↔ readFinite? (trim s.toList) = some x := by
      rw [readFinite?_eq_some_iff]
      exact ⟨fun h => by cases h; assumption, .text⟩
    rw [coerce_double_string, hdenotes]
    split
    · next hblank =>
      rw [trim_of_isAllBlank hblank]
      exact iff_of_false nofun nofun
    · cases readFinite? (trim s.toList) with
      | none => exact iff_of_false nofun nofun
      | some y => simp [Attempt.ofOption, Except.map]

/-! ## Operands -/

/-- The value is of the type, and finite if it is a Double. -/
def FieldValue.IsOf (kind : FieldType) (v : FieldValue) : Prop :=
  v.kind = kind ∧ ∀ x, v = .double x → |x.value| < 2 ^ 1024

theorem FieldValue.isOf_iff {v : FieldValue} : v.IsOf kind ↔ v.kind = kind :=
  ⟨fun h => h.1, fun h => ⟨h, fun x _ => x.abs_value_lt⟩⟩

namespace FieldRule

variable {r : FieldRule}

/-- Each operand of the rule is absent or a value of the rule's type. -/
def OperandsOfKind (r : FieldRule) : Prop :=
  ∀ operand ∈ r.operands, operand = none ∨ ∃ v, operand = some v ∧ v.IsOf r.kind

theorem operandsOfKind_iff :
    OperandsOfKind r ↔ ∀ v, some v ∈ r.operands → v.kind = r.kind := by
  constructor
  · intro h v hv
    rcases h (some v) hv with hnone | ⟨w, hw, hkind⟩
    · cases hnone
    · cases hw
      exact hkind.1
  · intro h operand hoperand
    cases operand with
    | none => exact .inl rfl
    | some v => exact .inr ⟨v, rfl, FieldValue.isOf_iff.mpr (h v hoperand)⟩

/-- A call keeps the operands of the rule's type: it sets them all from
one value, or leaves them as they are. -/
theorem operandsOfKind_after (call : OperandCall) (h : OperandsOfKind r) :
    OperandsOfKind (r.after call) := by
  by_cases hreadable : call.Readable r.kind
  · obtain ⟨r', hassign⟩ := exists_assign_iff.mpr hreadable
    rw [after_of_assign hassign, operandsOfKind_iff]
    intro v hv
    obtain ⟨operands, hoperands, rfl⟩ := assign_eq_ok_iff.mp hassign
    exact kind_of_mem_operandsOf (operandsOf_eq_ok_iff.mpr hoperands) hv
  · rw [after_of_not_readable hreadable]
    exact h

/-- So does a run of calls. -/
theorem operandsOfKind_afterAll (calls : List OperandCall) (h : OperandsOfKind r) :
    OperandsOfKind (r.afterAll calls) := by
  induction calls generalizing r with
  | nil => exact h
  | cons call calls ih => exact ih (operandsOfKind_after call h)

theorem operandsOfKind_new (field : String) (kind : FieldType) (op : Operator)
    (calls : List OperandCall) : OperandsOfKind ((new field kind op).afterAll calls) :=
  operandsOfKind_afterAll calls fun _ h => by cases h

/-- Data that are coerced to the rule's type compare with its operands. -/
theorem exists_order?_operand {v c : FieldValue} (h : OperandsOfKind r)
    (hv : coerceData options r.kind value = .ok (some v)) (hc : some c ∈ r.operands)
    (flags : CompareFlags) : ∃ o, v.order? flags c = some o := by
  have hkind : c.kind = r.kind := operandsOfKind_iff.mp h c hc
  exact FieldValue.exists_order? ((kind_of_coerceData hv).trans hkind.symm)

end FieldRule

/-! ## All values -/

/-- A coercion that does not break off is refused, or gives an absent
value, or a value of the type; one that breaks off has cut an offset
inside a digit.  A Double is the finite double that the value denotes,
and a text that is read as another number is refused.  After any calls
the operands of a rule are absent or of its type, and data of that type
compare with each that is present. -/
theorem coercion_keepsKind (options : RuleOptions) (kind : FieldType) (value : Json)
    (field : String) (op : Operator) (calls : List OperandCall) :
    (¬ Coercion.BreaksOff options kind value → Settled kind (coerce options kind value)) ∧
    (Coercion.BreaksOff options kind value →
      coerce options kind value = .error (.aborted .offsetCut)) ∧
    (∀ x, coerce options .double value = .ok (some (.double x)) →
      DoubleOf value x ∧ |x.value| < 2 ^ 1024) ∧
    (∀ x, DoubleOf value x → coerce options .double value = .ok (some (.double x))) ∧
    (∀ s literal, readLiteral? (trim s.toList) = some literal → (∀ x, literal ≠ .finite x) →
      coerce options .double (.string s) = Attempt.refuse (.invalid .double s)) ∧
    ((FieldRule.new field kind op).afterAll calls).kind = kind ∧
    ((FieldRule.new field kind op).afterAll calls).OperandsOfKind ∧
    ∀ v c, coerceData options kind value = .ok (some v) →
      some c ∈ ((FieldRule.new field kind op).afterAll calls).operands →
      ∀ flags, ∃ o, v.order? flags c = some o := by
  have hkind : ((FieldRule.new field kind op).afterAll calls).kind = kind :=
    (FieldRule.sameTest_afterAll _ calls).kind
  have hoperands := FieldRule.operandsOfKind_new field kind op calls
  refine ⟨settled_iff.mpr, coerce_eq_aborted_iff.mpr,
    fun x h => ⟨coerce_double_iff.mp h, x.abs_value_lt⟩, fun _ => coerce_double_iff.mpr, ?_,
    hkind, hoperands, ?_⟩
  · intro s literal hliteral hfinite
    have hnone : readFinite? (trim s.toList) = none := by
      rw [Option.eq_none_iff_forall_ne_some]
      intro x hx
      rw [readFinite?_eq_some_iff, hliteral] at hx
      exact hfinite x (Option.some.inj hx)
    have hblank : isAllBlank s.toList = false := by
      rw [Bool.eq_false_iff]
      intro hblank
      rw [trim_of_isAllBlank hblank] at hliteral
      cases hliteral
    rw [coerce_double_string, hnone, hblank]
    rfl
  · intro v c hv hc flags
    have hdata : coerceData options ((FieldRule.new field kind op).afterAll calls).kind value =
        .ok (some v) := by rw [hkind, hv]
    exact FieldRule.exists_order?_operand hoperands hdata hc flags

/-- A moment of the year 2019 whose offset is written with two digits of
three bytes each. -/
def devanagariOffset : Json := .string "2019-06-01 08:00 +\u0966\u096B"

/-- The offset is cut inside a digit. -/
theorem not_settled_of_devanagari :
    ¬ ∀ options kind value, Settled kind (coerce options kind value) := by
  intro h
  have hcut : Coercion.BreaksOff {} .dateTime devanagariOffset := by decide +kernel
  exact settled_iff.mp (h {} .dateTime devanagariOffset) hcut

/-- The calls of a rule on counts: the second one cannot be read. -/
def countCalls : List OperandCall :=
  [⟨{}, some (.array [.string "1", .null])⟩, ⟨{}, some (.string "many")⟩]

/-- An offset of ASCII digits does no harm; a text of an infinity is
refused as a Double; and an operand stays an integer after a call that
failed. -/
theorem coercion_keepsKind_samples :
    (¬ Coercion.BreaksOff {} .dateTime (.string "2019-06-01 08:00 +0530") ∧
      Settled .dateTime (coerce {} .dateTime (.string "2019-06-01 08:00 +0530"))) ∧
    (Coercion.BreaksOff {} .date devanagariOffset ∧
      coerce {} .date devanagariOffset = .error (.aborted .offsetCut)) ∧
    (DoubleOf (.bool true) .one ∧ coerce {} .double (.bool true) = .ok (some (.double .one)) ∧
      |Binary64.one.value| < 2 ^ 1024) ∧
    (readLiteral? (trim "-Infinity".toList) = some (.infinite true) ∧
      coerce {} .double (.string "-Infinity") = Attempt.refuse (.invalid .double "-Infinity")) ∧
    (coerceData {} .integer (.string "2") = .ok (some (.integer 2)) ∧
      some (.integer 1) ∈ ((FieldRule.new "count" .integer .isIn).afterAll countCalls).operands ∧
      ∃ o, (FieldValue.integer 2).order? {} (.integer 1) = some o) := by
  have hgood : ¬ Coercion.BreaksOff {} .dateTime (.string "2019-06-01 08:00 +0530") := by
    decide +kernel
  obtain ⟨hsettled, -⟩ := coercion_keepsKind {} .dateTime (.string "2019-06-01 08:00 +0530")
    "at" .equal []
  have hbad : Coercion.BreaksOff {} .date devanagariOffset := by decide +kernel
  obtain ⟨-, hcut, -⟩ := coercion_keepsKind {} .date devanagariOffset "at" .equal []
  obtain ⟨-, -, hfinite, hdouble, hrefused, -⟩ :=
    coercion_keepsKind {} .double (.bool true) "x" .equal []
  have hone : coerce {} .double (.bool true) = .ok (some (.double .one)) := hdouble _ .true
  have hinfinite : readLiteral? (trim "-Infinity".toList) = some (.infinite true) := rfl
  have hother (x : Binary64) : LiteralValue.infinite true ≠ .finite x := by simp
  have hoperand : some (.integer 1) ∈
      ((FieldRule.new "count" .integer .isIn).afterAll countCalls).operands := .head _
  obtain ⟨-, -, -, -, -, -, -, hcompare⟩ :=
    coercion_keepsKind {} .integer (.string "2") "count" .isIn countCalls
  exact ⟨⟨hgood, hsettled hgood⟩, ⟨hbad, hcut hbad⟩, ⟨.true, hone, (hfinite _ hone).2⟩,
    ⟨hinfinite, hrefused "-Infinity" _ hinfinite hother⟩,
    ⟨rfl, hoperand, hcompare _ _ rfl hoperand {}⟩⟩

end RecordSieve
