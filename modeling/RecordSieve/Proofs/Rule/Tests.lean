/-
RecordSieve.Proofs.Rule.Tests — tests as questions about the value read.

Each test reads the data, by `TestContext.read`, and then asks something
of the value; only `between` and `contains` look at their operands first.
Said in this way (`equals_eq_map` and its like) two tests are compared in
two steps: they read the same, and they ask the same of it
(`map_congr_of_ok`), or at least no more (`map_any_mono`).
-/
import RecordSieve.Proofs.Rule.LocaleUse

namespace RecordSieve

section Question

variable {ε β : Type} {x : Except ε (Option FieldValue)}

/-- Functions that agree on the value that was read, and on none, agree
on what was read. -/
theorem map_congr_of_ok {f f' : Option FieldValue → β} (hnone : f none = f' none)
    (h : ∀ v, x = .ok (some v) → f (some v) = f' (some v)) : x.map f = x.map f' := by
  rcases x with e | _ | v
  · rfl
  · exact congrArg Except.ok hnone
  · exact congrArg Except.ok (h v rfl)

/-- A question about what was read is answered yes if a value was read
and it is the answer for that. -/
theorem map_any_eq_true_iff {p : FieldValue → Bool} :
    x.map (Option.any p) = .ok true ↔ ∃ v, x = .ok (some v) ∧ p v = true := by
  rcases x with e | _ | v <;> simp [Except.map]

/-- A question that asks no more is answered yes where the first one was. -/
theorem map_any_mono {p p' : FieldValue → Bool} (h : ∀ v, p v = true → p' v = true)
    (hx : x.map (Option.any p) = .ok true) : x.map (Option.any p') = .ok true := by
  rcases x with e | _ | v
  · cases hx
  · cases hx
  · exact congrArg Except.ok (h v (Except.ok.inj hx))

end Question

namespace TestContext

variable {ctx : TestContext} {token : Json}

/-- The order of a value and the first operand. -/
def orderFirst? (ctx : TestContext) (v : FieldValue) : Option Ordering :=
  (ctx.operand? 0).bind (v.order? ctx.options.compare)

/-- Whether a value is equal to the first operand. -/
def equalsFirst (ctx : TestContext) (v : FieldValue) : Bool := (ctx.operand? 0).any (ctx.equal v)

/-- Whether a value is equal to some operand. -/
def equalsAny (ctx : TestContext) (v : FieldValue) : Bool :=
  ctx.operands.any fun c => c.any (ctx.equal v)

/-- Whether a value lies between two others, ends included. -/
def liesBetween (ctx : TestContext) (low high v : FieldValue) : Bool :=
  let fromLow := v.order? ctx.options.compare low
  let fromHigh := v.order? ctx.options.compare high
  (fromLow == some .gt || fromLow == some .eq) && (fromHigh == some .lt || fromHigh == some .eq)

/-- Whether a test of two texts holds for a value and an operand: neither
text is empty, and the test holds under the flags. -/
def textsPass (ctx : TestContext) (test : CompareFlags → String → String → Bool)
    (v c : FieldValue) : Bool :=
  !v.write.isEmpty && !c.write.isEmpty && test ctx.options.compare v.write c.write

theorem compareFirst?_eq_map :
    ctx.compareFirst? token = (ctx.read token).map (Option.bind · ctx.orderFirst?) := by
  unfold compareFirst? orderFirst?
  rcases ctx.read token with abort | _ | v <;> rfl

theorem equals_eq_map : ctx.equals token = (ctx.read token).map (Option.any ctx.equalsFirst) := by
  unfold equals equalsFirst
  rcases ctx.read token with abort | _ | v <;> cases ctx.operand? 0 <;> rfl

theorem isListed_eq_map : ctx.isListed token = (ctx.read token).map (Option.any ctx.equalsAny) := by
  unfold isListed
  rcases ctx.read token with abort | _ | v <;> rfl

theorem isBetween_of_operands {low high : FieldValue} (hlow : ctx.operand? 0 = some low)
    (hhigh : ctx.operand? 1 = some high) :
    ctx.isBetween token = (ctx.read token).map (Option.any (ctx.liesBetween low high)) := by
  unfold isBetween
  rw [hlow, hhigh]
  rcases ctx.read token with abort | _ | v <;> rfl

/-- Without both operands nothing lies between them, and nothing is read. -/
theorem isBetween_of_missing (h : ctx.operand? 0 = none ∨ ctx.operand? 1 = none) :
    ctx.isBetween token = .ok false := by
  unfold isBetween
  rcases h with h | h
  · rw [h]
    rfl
  · rw [h]
    cases ctx.operand? 0 <;> rfl

theorem textTest_eq_map {test : CompareFlags → String → String → Bool} : ctx.textTest test token =
    (ctx.read token).map (Option.any fun v => (ctx.operand? 0).any (ctx.textsPass test v)) := by
  unfold textTest
  rcases ctx.read token with abort | _ | v <;> cases ctx.operand? 0 <;> rfl

theorem itemEquals_eq_map {c : FieldValue} :
    ctx.itemEquals c token = (ctx.read token).map (Option.any fun v => ctx.equal v c) := by
  unfold itemEquals
  rcases ctx.read token with abort | _ | v <;> rfl

theorem contains_of_missing (h : ctx.operand? 0 = none) : ctx.contains token = .ok false := by
  rw [contains, h]

theorem contains_array {c : FieldValue} (h : ctx.operand? 0 = some c) (items : List Json) :
    ctx.contains (.array items) = items.anyM (ctx.itemEquals c) := by
  rw [contains, h]

theorem contains_of_not_array {c : FieldValue} (h : ctx.operand? 0 = some c)
    (htoken : ∀ items, token ≠ .array items) :
    ctx.contains token = (ctx.read token).map (Option.any fun v => ctx.valueContains v c) := by
  rw [contains, h]
  cases token with
  | array items => exact absurd rfl (htoken items)
  | _ => rfl

/-! ## Two tests -/

/-- Two tests read data alike and have the same operands. -/
structure ReadsAlike (ctx ctx' : TestContext) : Prop where
  kind : ctx.kind = ctx'.kind
  operands : ctx.operands = ctx'.operands
  locale : ctx.kind.usesLocale = true → ctx.options.locale = ctx'.options.locale

namespace ReadsAlike

variable {ctx' : TestContext}

theorem read_eq (h : ctx.ReadsAlike ctx') : ctx.read token = ctx'.read token := by
  rw [read, read, ← h.kind]
  exact coerceData_congr h.locale

theorem operand?_eq (h : ctx.ReadsAlike ctx') (i : Nat) : ctx.operand? i = ctx'.operand? i := by
  rw [operand?, operand?, h.operands]

end ReadsAlike

end TestContext

/-! ## Field rules -/

namespace FieldRule

variable {options : RuleOptions} {record token : Json} {r : FieldRule}

/-- Options have no part in the answer for a record without the field. -/
theorem holdsMissing_context (r : FieldRule) (options options' : RuleOptions) :
    r.family.holdsMissing r.negated (r.context options) =
      r.family.holdsMissing r.negated (r.context options') := by
  cases hfamily : r.family <;> rfl

theorem evaluate_of_missing (h : record.resolve r.field = none) :
    r.evaluate options record = .ok (r.family.holdsMissing r.negated (r.context options)) := by
  rw [evaluate, h]

theorem evaluate_of_token (h : record.resolve r.field = some token) :
    r.evaluate options record =
      (r.family.holds (r.context options) token).map fun b => b != r.negated := by
  rw [evaluate, h]
  show (do return (← r.family.holds (r.context options) token) != r.negated) = _
  cases r.family.holds (r.context options) token <;> rfl

end FieldRule

end RecordSieve
