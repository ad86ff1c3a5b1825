/-
RecordSieve.Proofs.Rule.Assignment — a field rule holds one operand value
at a time.

The value of an operand and what it was read as are two fields of a rule,
set one after the other when a value is assigned in place
(`OperandCall.inPlace`).  They stay together because nothing is set before
the whole value has been read, all items of an array included: a call that
fails leaves the rule as it was, and one that does not has the effect of
`FieldRule.assign` (`run_inPlace`).

An assignment overwrites what earlier ones have set, and no other field
(`assign_congr`), so over a run of calls only the last one that was taken
counts (`assign_eq_ok_afterAll`).  Which calls are taken is said of their
values alone (`OperandCall.Readable`), since the type of a rule never
changes.
-/
import Mathlib.Data.List.Forall2
import RecordSieve.Proofs.Rule.Grammar

namespace RecordSieve

open Definition

variable {options : RuleOptions} {kind : FieldType} {value : Option Json}
  {operands : List (Option FieldValue)} {r : FieldRule}

/-! ## What a value is read as -/

/-- The operands of a value: none where there is no value, an absent one
for the empty array, one for each item of another array, in order, and
one for a scalar. -/
inductive OperandsFor (options : RuleOptions) (kind : FieldType) :
    Option Json → List (Option FieldValue) → Prop
  | none : OperandsFor options kind none []
  | empty : OperandsFor options kind (some (.array [])) [.none]
  | items {items : List Json} {operands : List (Option FieldValue)} : items ≠ [] →
      List.Forall₂ (fun item operand => coerce options kind item = .ok operand) items operands →
      OperandsFor options kind (some (.array items)) operands
  | scalar {value : Json} {operand : Option FieldValue} : (∀ items, value ≠ .array items) →
      coerce options kind value = .ok operand → OperandsFor options kind (some value) [operand]

theorem mapM_eq_ok_iff_forall₂ {ε α β : Type} {f : α → Except ε β} {as : List α} {bs : List β} :
    as.mapM f = .ok bs ↔ List.Forall₂ (fun a b => f a = .ok b) as bs := by
  induction as generalizing bs with
  | nil => cases bs <;> simp [pure, Except.pure]
  | cons a as ih =>
    rw [mapM_cons_eq_ok_iff]
    cases bs with
    | nil => simp
    | cons b bs => simp [← ih]

/-- A value is read as operands in one way. -/
theorem operandsOf_eq_ok_iff :
    FieldRule.operandsOf options kind value = .ok operands ↔
      OperandsFor options kind value operands := by
  unfold FieldRule.operandsOf
  split
  · constructor
    · intro h
      cases h
      exact .none
    · intro h
      cases h
      rfl
  · constructor
    · intro h
      cases h
      exact .empty
    · intro h
      cases h with
      | empty => rfl
      | items hne => exact absurd rfl hne
      | scalar hscalar => exact absurd rfl (hscalar [])
  · next items hne =>
    rw [mapM_eq_ok_iff_forall₂]
    constructor
    · exact .items hne
    · intro h
      cases h with
      | empty => exact absurd rfl hne
      | items _ h => exact h
      | scalar hscalar => exact absurd rfl (hscalar items)
  · next scalar hempty harray =>
    constructor
    · intro h
      obtain ⟨operand, hoperand, h⟩ := bind_eq_ok_iff.mp h
      cases h
      exact .scalar harray hoperand
    · intro h
      cases h with
      | empty => exact absurd rfl hempty
      | items => exact absurd rfl (harray _)
      | scalar _ hoperand => rw [hoperand]; rfl

/-! ## One call -/

/-- A value that is assigned under options. -/
structure OperandCall where
  options : RuleOptions
  value : Option Json

namespace OperandCall

/-- Each item of the value is one of the type, or stands for an absent one. -/
def Readable (kind : FieldType) (call : OperandCall) : Prop :=
  ∀ item ∈ operandItems call.value, Coercible call.options kind item

instance (kind : FieldType) (call : OperandCall) : Decidable (call.Readable kind) :=
  inferInstanceAs (Decidable (∀ _ ∈ _, _))

/-- Assigns the value to the rule that is the state.  What has been set
when a failure comes stays set, so the value is read first. -/
def inPlace (call : OperandCall) : EStateM (Failure CoercionError) FieldRule Unit := do
  let operands ← liftExcept (FieldRule.operandsOf call.options (← get).kind call.value)
  modify fun r => { r with operands := operands }
  modify fun r => { r with raw := call.value }

/-- The call on this rule is answered without a failure. -/
def Taken (call : OperandCall) (r : FieldRule) : Prop :=
  ∃ r', call.inPlace.run r = .ok () r'

end OperandCall

namespace FieldRule

variable {call : OperandCall} {r' : FieldRule}

/-- A value is assigned exactly if it can be read; the rule then holds it
and its operands. -/
theorem assign_eq_ok_iff : r.assign options value = .ok r' ↔
    ∃ operands, OperandsFor options r.kind value operands ∧
      { r with raw := value, operands := operands } = r' := by
  unfold assign
  simp [bind_eq_ok_iff, operandsOf_eq_ok_iff, pure, Except.pure]

theorem exists_assign_iff :
    (∃ r', r.assign call.options call.value = .ok r') ↔ call.Readable r.kind := by
  simp [OperandCall.Readable, ← exists_operandsOf_iff, assign_eq_ok_iff, operandsOf_eq_ok_iff]

/-- To assign in place is to assign, and a failure leaves the rule as it was. -/
theorem run_inPlace (call : OperandCall) (r : FieldRule) :
    call.inPlace.run r = match r.assign call.options call.value with
      | .ok r' => .ok () r'
      | .error failure => .error failure r := by
  cases h : operandsOf call.options r.kind call.value with
  | ok operands =>
    have hassign : r.assign call.options call.value =
        .ok { r with raw := call.value, operands := operands } := by
      unfold assign
      rw [h]
      rfl
    rw [hassign]
    simp [OperandCall.inPlace, h, liftExcept]
  | error failure =>
    have hassign : r.assign call.options call.value = .error failure := by
      unfold assign
      rw [h]
      rfl
    have hthrow : (throw failure : EStateM _ FieldRule (List (Option FieldValue))).run r =
        .error failure r := rfl
    rw [hassign]
    simp [OperandCall.inPlace, h, liftExcept, hthrow]

theorem taken_iff : call.Taken r ↔ call.Readable r.kind := by
  rw [← exists_assign_iff, OperandCall.Taken, run_inPlace]
  cases r.assign call.options call.value <;> simp

/-! ## What a call leaves alone -/

/-- The rules are the same but for the operand. -/
structure SameTest (r r' : FieldRule) : Prop where
  field : r'.field = r.field
  kind : r'.kind = r.kind
  family : r'.family = r.family
  negated : r'.negated = r.negated

theorem SameTest.refl (r : FieldRule) : SameTest r r := ⟨rfl, rfl, rfl, rfl⟩

theorem SameTest.trans {r'' : FieldRule} (h : SameTest r r') (h' : SameTest r' r'') :
    SameTest r r'' :=
  ⟨h'.field.trans h.field, h'.kind.trans h.kind, h'.family.trans h.family,
    h'.negated.trans h.negated⟩

theorem sameTest_of_assign (h : r.assign options value = .ok r') : SameTest r r' := by
  obtain ⟨operands, -, rfl⟩ := assign_eq_ok_iff.mp h
  exact ⟨rfl, rfl, rfl, rfl⟩

/-- What a rule held before does not matter for an assignment. -/
theorem assign_congr (h : SameTest r r') : r'.assign options value = r.assign options value := by
  unfold assign
  rw [h.field, h.kind, h.family, h.negated]

/-! ## A run of calls -/

/-- The rule after a call, whatever its answer. -/
def after (r : FieldRule) (call : OperandCall) : FieldRule :=
  match call.inPlace.run r with
  | .ok _ r' => r'
  | .error _ r' => r'

/-- The rule after a run of calls. -/
def afterAll (r : FieldRule) (calls : List OperandCall) : FieldRule := calls.foldl after r

theorem after_of_assign (h : r.assign call.options call.value = .ok r') : r.after call = r' := by
  unfold after
  rw [run_inPlace, h]

theorem after_of_not_readable (h : ¬ call.Readable r.kind) : r.after call = r := by
  unfold after
  rw [run_inPlace]
  cases hassign : r.assign call.options call.value with
  | ok r' => exact absurd (exists_assign_iff.mp ⟨r', hassign⟩) h
  | error failure => rfl

theorem sameTest_after (r : FieldRule) (call : OperandCall) : SameTest r (r.after call) := by
  by_cases h : call.Readable r.kind
  · obtain ⟨r', hassign⟩ := exists_assign_iff.mpr h
    rw [after_of_assign hassign]
    exact sameTest_of_assign hassign
  · rw [after_of_not_readable h]
    exact .refl r

theorem sameTest_afterAll (r : FieldRule) (calls : List OperandCall) :
    SameTest r (r.afterAll calls) := by
  induction calls generalizing r with
  | nil => exact .refl r
  | cons call calls ih => exact (sameTest_after r call).trans (ih (r.after call))

theorem afterAll_of_not_readable {calls : List OperandCall}
    (h : ∀ call ∈ calls, ¬ call.Readable r.kind) : r.afterAll calls = r := by
  induction calls with
  | nil => rfl
  | cons call calls ih =>
    obtain ⟨hcall, hcalls⟩ := List.forall_mem_cons.mp h
    show (r.after call).afterAll calls = r
    rw [after_of_not_readable hcall, ih hcalls]

/-- The last call that can be read decides, and does what it would have
done alone. -/
theorem assign_eq_ok_afterAll {before later : List OperandCall} (h : call.Readable r.kind)
    (hlater : ∀ c ∈ later, ¬ c.Readable r.kind) :
    r.assign call.options call.value = .ok (r.afterAll (before ++ call :: later)) := by
  obtain ⟨r', hr'⟩ := exists_assign_iff.mpr h
  have hbefore : (r.afterAll before).assign call.options call.value = .ok r' := by
    rw [assign_congr (sameTest_afterAll r before), hr']
  have hkind : r'.kind = r.kind := (sameTest_of_assign hr').kind
  rw [← hkind] at hlater
  have hrun : r.afterAll (before ++ call :: later) = r' := by
    show (before ++ call :: later).foldl after r = r'
    rw [List.foldl_append, List.foldl_cons]
    show ((r.afterAll before).after call).afterAll later = r'
    rw [after_of_assign hbefore, afterAll_of_not_readable hlater]
  rw [hr', hrun]

/-- Of a run of calls either none is taken, or there is a last one that is. -/
theorem none_readable_or_last (kind : FieldType) (calls : List OperandCall) :
    (∀ call ∈ calls, ¬ call.Readable kind) ∨
      ∃ before call later, calls = before ++ call :: later ∧ call.Readable kind ∧
        ∀ c ∈ later, ¬ c.Readable kind := by
  induction calls with
  | nil => simp
  | cons call calls ih =>
    rcases ih with hnone | ⟨before, last, later, rfl, hlast, hlater⟩
    · by_cases h : call.Readable kind
      · exact .inr ⟨[], call, calls, rfl, h, hnone⟩
      · exact .inl (List.forall_mem_cons.mpr ⟨h, hnone⟩)
    · exact .inr ⟨call :: before, last, later, rfl, hlast, hlater⟩

/-- A rule holds the value of the last call that was taken and what that
is read as, which is what this call alone would have set, and no operand
if no call was taken.  A call is taken exactly if each item of its value
is one of the type, however the calls before it went, and no call changes
more than the operand. -/
theorem afterAll_holds_last (field : String) (kind : FieldType) (op : Operator)
    (calls : List OperandCall) :
    let start := FieldRule.new field kind op
    let r := start.afterAll calls
    (r.field = field ∧ Json.pathOf r.field = Json.pathOf field ∧ r.kind = kind ∧
      r.family = op.split.1 ∧ r.negated = op.split.2 ∧ r.operator = op) ∧
    (∀ before (call : OperandCall), call.Taken (start.afterAll before) ↔ call.Readable kind) ∧
    ((∀ call ∈ calls, ¬ call.Readable kind) ∧ r = start ∧ r.raw = none ∧ r.operands = [] ∨
      ∃ before call later, calls = before ++ call :: later ∧ call.Readable kind ∧
        (∀ c ∈ later, ¬ c.Readable kind) ∧
        r.raw = call.value ∧ OperandsFor call.options kind call.value r.operands ∧
        start.assign call.options call.value = .ok r) := by
  intro start r
  have hsame : SameTest start r := sameTest_afterAll start calls
  have hop : r.operator = op := by
    unfold operator
    rw [hsame.family, hsame.negated]
    exact op.operator_split
  have hpath : Json.pathOf r.field = Json.pathOf field := by rw [hsame.field]; rfl
  refine ⟨⟨hsame.field, hpath, hsame.kind, hsame.family, hsame.negated, hop⟩, ?_, ?_⟩
  · intro before call
    rw [taken_iff, (sameTest_afterAll start before).kind]
    rfl
  · rcases none_readable_or_last kind calls with
      hnone | ⟨before, call, later, hcalls, hcall, hlater⟩
    · have hr : r = start := afterAll_of_not_readable hnone
      rw [hr]
      exact .inl ⟨hnone, rfl, rfl, rfl⟩
    · have hassign : start.assign call.options call.value = .ok r := by
        show _ = Except.ok (start.afterAll calls)
        rw [hcalls]
        exact assign_eq_ok_afterAll hcall hlater
      obtain ⟨operands, hoperands, hr⟩ := assign_eq_ok_iff.mp hassign
      have hraw : r.raw = call.value := by rw [← hr]
      rw [show operands = r.operands by rw [← hr]] at hoperands
      exact .inr ⟨before, call, later, hcalls, hcall, hlater, hraw, hoperands, hassign⟩

/-- An array with a bad item leaves the operand of the call before it. -/
example : ((FieldRule.new "count" .integer .equal).afterAll
    [⟨{}, some (.array [.string "1", .string "2"])⟩,
     ⟨{}, some (.array [.string "3", .string "x"])⟩]).operands =
      [some (.integer 1), some (.integer 2)] := by
  rfl

end FieldRule

end RecordSieve
