/-
RecordSieve.Proofs.Rule.OptionScope — options reach the types that they
are about, and no others.

The locale has a part in reading instants, dates and durations, the flags
in comparing strings.  Values of the other types come to the collator as
well, because two operators compare the ends of written values; but they
are written in alphabets whose letters folding keeps apart
(`FieldType.plain_alphabet`), so the flags make no difference to them.

A test on data of one type is then the same under options that differ
only in what the type does not use (`TestContext.Alike`), and with its
field rules the whole tree is.
-/
import RecordSieve.Proofs.Collation.PlainText
import RecordSieve.Proofs.Rule.Tests
import RecordSieve.Proofs.Session.Run
import RecordSieve.Proofs.Value.Figures

namespace RecordSieve

open Collation Text

variable {F G : CompareFlags} {options options' : RuleOptions} {record token : Json}

/-! ## Values -/

theorem Text.plain_figures : Plain figures := by decide +kernel

theorem Text.plain_truthLetters : Plain truthLetters := by decide +kernel

theorem FieldType.plain_alphabet (kind : FieldType) : Plain kind.alphabet := by
  cases kind with
  | boolean => exact plain_truthLetters
  | _ => exact plain_figures

namespace FieldValue

variable {v c : FieldValue}

theorem order?_eq_of_kind_ne (h : v.kind ≠ .string) : order? F v c = order? G v c := by
  cases v with
  | string s => exact absurd rfl h
  | _ => cases c <;> rfl

/-- Written values of a type other than strings start alike under all flags. -/
theorem startsWith_write_eq (h : v.kind ≠ .string) (hc : c.kind = v.kind) :
    startsWith F v.write c.write = startsWith G v.write c.write := by
  have hv : v.write.toList ⊆ v.kind.alphabet := write_subset h
  have hc : c.write.toList ⊆ v.kind.alphabet := hc ▸ write_subset (hc ▸ h)
  rw [Bool.eq_iff_iff, v.kind.plain_alphabet.startsWith_iff hv hc,
    v.kind.plain_alphabet.startsWith_iff hv hc]

/-- Written values of a type other than strings end alike under all flags. -/
theorem endsWith_write_eq (h : v.kind ≠ .string) (hc : c.kind = v.kind) :
    endsWith F v.write c.write = endsWith G v.write c.write := by
  have hv : v.write.toList ⊆ v.kind.alphabet := write_subset h
  have hc : c.write.toList ⊆ v.kind.alphabet := hc ▸ write_subset (hc ▸ h)
  rw [Bool.eq_iff_iff, v.kind.plain_alphabet.endsWith_iff hv hc,
    v.kind.plain_alphabet.endsWith_iff hv hc]

end FieldValue

/-! ## Tests -/

namespace TestContext

/-- Two tests of one type differ in options that the type does not use. -/
structure Alike (ctx ctx' : TestContext) : Prop extends ReadsAlike ctx ctx' where
  typed : ∀ c, some c ∈ ctx.operands → c.kind = ctx.kind
  flags : ctx.kind = .string → ctx.options.compare = ctx'.options.compare

namespace Alike

variable {ctx ctx' : TestContext} {v c : FieldValue}

theorem kind_of_operand? (h : ctx.Alike ctx') {i : Nat} (hc : ctx.operand? i = some c) :
    c.kind = ctx.kind :=
  h.typed c (List.mem_of_getElem? (Option.join_eq_some_iff.mp hc))

theorem order?_eq (h : ctx.Alike ctx') (hv : v.kind = ctx.kind) :
    v.order? ctx.options.compare c = v.order? ctx'.options.compare c := by
  by_cases hstring : ctx.kind = .string
  · rw [h.flags hstring]
  · exact FieldValue.order?_eq_of_kind_ne (hv ▸ hstring)

theorem equal_eq (h : ctx.Alike ctx') (hv : v.kind = ctx.kind) :
    ctx.equal v c = ctx'.equal v c := by
  rw [equal, equal, FieldValue.equal, FieldValue.equal, h.order?_eq hv]

/-- A test of texts that flags do not change for written values of types
other than strings is not changed for the type. -/
theorem textsPass_eq (h : ctx.Alike ctx') {test : CompareFlags → String → String → Bool}
    (htest : ∀ F G (v c : FieldValue), v.kind ≠ .string → c.kind = v.kind →
      test F v.write c.write = test G v.write c.write)
    (hv : v.kind = ctx.kind) (hc : c.kind = ctx.kind) :
    ctx.textsPass test v c = ctx'.textsPass test v c := by
  rw [textsPass, textsPass]
  by_cases hstring : ctx.kind = .string
  · rw [h.flags hstring]
  · rw [htest _ ctx'.options.compare v c (hv ▸ hstring) (hc.trans hv.symm)]

theorem valueContains_eq (h : ctx.Alike ctx') (hv : v.kind = ctx.kind) :
    ctx.valueContains v c = ctx'.valueContains v c := by
  unfold valueContains
  split
  · rw [h.flags hv.symm]
  · exact h.equal_eq hv

/-- The tests come down to questions about values of the type. -/
theorem map_read_eq (h : ctx.Alike ctx') {p p' : FieldValue → Bool}
    (hp : ∀ v, v.kind = ctx.kind → p v = p' v) :
    (ctx.read token).map (Option.any p) = (ctx'.read token).map (Option.any p') := by
  rw [← h.read_eq]
  exact map_congr_of_ok rfl fun v hv => hp v (kind_of_coerceData hv)

theorem equals_eq (h : ctx.Alike ctx') : ctx.equals token = ctx'.equals token := by
  rw [equals_eq_map, equals_eq_map]
  refine h.map_read_eq fun v hv => ?_
  rw [equalsFirst, equalsFirst, ← h.operand?_eq]
  exact congrArg (Option.any · _) (funext fun c => h.equal_eq hv)

theorem isListed_eq (h : ctx.Alike ctx') : ctx.isListed token = ctx'.isListed token := by
  rw [isListed_eq_map, isListed_eq_map]
  refine h.map_read_eq fun v hv => ?_
  have hequal : ctx.equal v = ctx'.equal v := funext fun c => h.equal_eq hv
  rw [equalsAny, equalsAny, h.operands, hequal]

theorem compareFirst?_eq (h : ctx.Alike ctx') :
    ctx.compareFirst? token = ctx'.compareFirst? token := by
  rw [compareFirst?_eq_map, compareFirst?_eq_map, ← h.read_eq]
  refine map_congr_of_ok rfl fun v hv => ?_
  have horder : v.order? ctx.options.compare = v.order? ctx'.options.compare :=
    funext fun c => h.order?_eq (kind_of_coerceData hv)
  show ctx.orderFirst? v = ctx'.orderFirst? v
  rw [orderFirst?, orderFirst?, h.operand?_eq, horder]

theorem isBetween_eq (h : ctx.Alike ctx') : ctx.isBetween token = ctx'.isBetween token := by
  cases hlow : ctx.operand? 0 with
  | none =>
    have hlow' : ctx'.operand? 0 = none := h.operand?_eq 0 ▸ hlow
    rw [isBetween_of_missing (Or.inl hlow), isBetween_of_missing (Or.inl hlow')]
  | some low =>
    cases hhigh : ctx.operand? 1 with
    | none =>
      have hhigh' : ctx'.operand? 1 = none := h.operand?_eq 1 ▸ hhigh
      rw [isBetween_of_missing (Or.inr hhigh), isBetween_of_missing (Or.inr hhigh')]
    | some high =>
      rw [isBetween_of_operands hlow hhigh,
        isBetween_of_operands (h.operand?_eq 0 ▸ hlow) (h.operand?_eq 1 ▸ hhigh)]
      refine h.map_read_eq fun v hv => ?_
      rw [liesBetween, liesBetween, h.order?_eq hv, h.order?_eq hv]

theorem textTest_eq (h : ctx.Alike ctx') {test : CompareFlags → String → String → Bool}
    (htest : ∀ F G (v c : FieldValue), v.kind ≠ .string → c.kind = v.kind →
      test F v.write c.write = test G v.write c.write) :
    ctx.textTest test token = ctx'.textTest test token := by
  rw [textTest_eq_map, textTest_eq_map]
  refine h.map_read_eq fun v hv => ?_
  rw [← h.operand?_eq]
  cases hc : ctx.operand? 0 with
  | none => rfl
  | some c => exact h.textsPass_eq htest hv (h.kind_of_operand? hc)

theorem contains_eq (h : ctx.Alike ctx') : ctx.contains token = ctx'.contains token := by
  cases hc : ctx.operand? 0 with
  | none => rw [contains_of_missing hc, contains_of_missing (h.operand?_eq 0 ▸ hc)]
  | some c =>
    have hc' : ctx'.operand? 0 = some c := h.operand?_eq 0 ▸ hc
    by_cases htoken : ∃ items, token = .array items
    · obtain ⟨items, rfl⟩ := htoken
      have hitems : ctx.itemEquals c = ctx'.itemEquals c := funext fun item => by
        rw [itemEquals_eq_map, itemEquals_eq_map]
        exact h.map_read_eq fun v hv => h.equal_eq hv
      rw [contains_array hc, contains_array hc', hitems]
    · have htoken : ∀ items, token ≠ .array items := fun items hitems => htoken ⟨items, hitems⟩
      rw [contains_of_not_array hc htoken, contains_of_not_array hc' htoken]
      exact h.map_read_eq fun v hv => h.valueContains_eq hv

theorem holds_eq (h : ctx.Alike ctx') (family : OperatorFamily) :
    family.holds ctx token = family.holds ctx' token := by
  cases family with
  | equal => exact h.equals_eq
  | isIn => exact h.isListed_eq
  | less => rw [OperatorFamily.holds, OperatorFamily.holds, h.compareFirst?_eq]
  | greater => rw [OperatorFamily.holds, OperatorFamily.holds, h.compareFirst?_eq]
  | between => exact h.isBetween_eq
  | null => rw [OperatorFamily.holds, OperatorFamily.holds, isNull, isNull, h.read_eq]
  | empty => rw [OperatorFamily.holds, OperatorFamily.holds, isEmpty, isEmpty, h.read_eq]
  | contains => exact h.contains_eq
  | beginsWith => exact h.textTest_eq fun _ _ _ _ => FieldValue.startsWith_write_eq
  | endsWith => exact h.textTest_eq fun _ _ _ _ => FieldValue.endsWith_write_eq

end Alike

end TestContext

/-! ## Rules -/

theorem FieldRule.evaluate_eq_of_alike {r : FieldRule}
    (h : (r.context options).Alike (r.context options')) :
    r.evaluate options record = r.evaluate options' record := by
  cases htoken : record.resolve r.field with
  | none =>
    rw [evaluate_of_missing htoken, evaluate_of_missing htoken, r.holdsMissing_context options]
  | some token => rw [evaluate_of_token htoken, evaluate_of_token htoken, h.holds_eq]

namespace Definition

/-- Two options differ in nothing that a leaf of the definition uses. -/
structure SeesAlike (definition : Json) (options options' : RuleOptions) : Prop where
  locale : ∀ kind, HasLeaf kind definition → kind.usesLocale = true →
    options.locale = options'.locale
  flags : HasLeaf .string definition → options.compare = options'.compare

variable {definition : Json}

/-- Without strings the flags may differ. -/
theorem seesAlike_of_locale (h : ¬ HasLeaf .string definition)
    (hlocale : options.locale = options'.locale) : SeesAlike definition options options' :=
  ⟨fun _ _ _ => hlocale, fun hleaf => absurd hleaf h⟩

/-- Without instants, dates and durations the locale may differ. -/
theorem seesAlike_of_flags (h : ∀ kind, HasLeaf kind definition → kind.usesLocale = false)
    (hflags : options.compare = options'.compare) : SeesAlike definition options options' :=
  ⟨fun kind hleaf huses => by simp [h kind hleaf] at huses, fun _ => hflags⟩

theorem SeesAlike.ofJson_eq (h : SeesAlike definition options options') :
    Rule.ofJson options definition = Rule.ofJson options' definition :=
  Rule.ofJson_eq_of_locale h.locale

/-- The field rules of a tree test alike. -/
theorem SeesAlike.leaf_alike (h : SeesAlike definition options options') {rule : Rule}
    (hrule : Rule.ofJson options definition = .ok rule) {r : FieldRule} (hr : r ∈ rule.leaves) :
    (r.context options).Alike (r.context options') where
  kind := rfl
  operands := rfl
  typed := fun _ hc => Rule.kind_of_mem_operands hrule hr hc
  locale := h.locale r.kind (Rule.hasLeaf_of_mem_leaves hrule hr)
  flags := fun hkind => h.flags (hkind ▸ Rule.hasLeaf_of_mem_leaves hrule hr)

end Definition

/-! ## Sessions -/

namespace Session

open Definition

variable {definition : Json}

/-- A definition is read alike under two options, as the same tree or
with the same failure, and the two sessions give one answer and one
explanation to every record. -/
def AnswersAlike (definition : Json) (options options' : RuleOptions) : Prop :=
  (start definition options).map root = (start definition options').map root ∧
  ∀ s s', start definition options = .ok s → start definition options' = .ok s' →
    ∀ record, s.evaluate record = s'.evaluate record ∧ s.explain record = s'.explain record ∧
      s.traced.explain record = s'.traced.explain record

theorem map_root_start : (start definition options).map root = Rule.ofJson options definition := by
  rw [start]
  cases Rule.ofJson options definition <;> rfl

theorem answersAlike_of_seesAlike (h : SeesAlike definition options options') :
    AnswersAlike definition options options' := by
  refine ⟨by rw [map_root_start, map_root_start, h.ofJson_eq], ?_⟩
  intro s s' hs hs' record
  have hreading := (isReading_of_start hs).1
  have hreading' := (isReading_of_start hs').1
  have hroot : s'.root = s.root :=
    Except.ok.inj (hreading'.tree.symm.trans (h.ofJson_eq.symm.trans hreading.tree))
  have htracing : s'.tracing = s.tracing :=
    (isReading_of_start hs').2.trans (isReading_of_start hs).2.symm
  have hleaves (r : FieldRule) (hr : r ∈ s.root.leaves) :
      r.evaluate options record = r.evaluate options' record :=
    FieldRule.evaluate_eq_of_alike (h.leaf_alike hreading.tree hr)
  simp only [evaluate, explain, traced, hroot, htracing, hreading.sameOptions,
    hreading'.sameOptions]
  exact ⟨Rule.evaluate_congr hleaves, Rule.explain_congr _ hleaves, Rule.explain_congr _ hleaves⟩

/-- The flags reach string leaves only, and the locale leaves that are
read by its conventions; a definition without these can be given any
options, at any time. -/
theorem answersAlike_of_scope (definition : Json) (options options' : RuleOptions) :
    (¬ HasLeaf .string definition → options.locale = options'.locale →
      AnswersAlike definition options options') ∧
    (¬ HasLeaf .dateTime definition → ¬ HasLeaf .date definition →
      ¬ HasLeaf .duration definition →
        (options.compare = options'.compare → AnswersAlike definition options options') ∧
        ∀ s, start definition options = .ok s → ∀ ops chosen,
          ∃ s', (s.run ops).session.withOptions chosen = .ok s') := by
  refine ⟨fun hstring hlocale => ?_, fun hdateTime hdate hduration => ?_⟩
  · exact answersAlike_of_seesAlike (seesAlike_of_locale hstring hlocale)
  · have hleaves : ∀ kind, HasLeaf kind definition → kind.usesLocale = false := by
      intro kind hleaf
      cases kind with
      | dateTime => exact absurd hleaf hdateTime
      | date => exact absurd hleaf hdate
      | duration => exact absurd hleaf hduration
      | _ => rfl
    refine ⟨fun hflags => answersAlike_of_seesAlike (seesAlike_of_flags hleaves hflags), ?_⟩
    intro s hs ops chosen
    have hsame (later : RuleOptions) : Rule.ofJson later definition = Rule.ofJson chosen definition :=
      Rule.ofJson_eq_of_locale fun kind hleaf huses => by simp [hleaves kind hleaf] at huses
    exact ⟨_, (run_isReading (isReading_of_start hs).1 ops).withOptions_eq (hsame _)⟩

/-- The rule that a timeout is written with the given text in front. -/
def timeoutStarts : Json := .object
  [("field", .string "timeout"), ("operator", .string "begins_with"), ("type", .string "duration"),
   ("value", .string "PT90S")]

/-- The rule that a switch is on. -/
def switchedOn : Json := .object
  [("field", .string "switch"), ("operator", .string "equal"), ("type", .string "boolean"),
   ("value", .bool true)]

/-- The letters of a written duration are compared, but no flag makes a
difference to them; and a switch is read alike in every locale. -/
theorem answersAlike_of_scope_samples :
    AnswersAlike timeoutStarts {} (RuleOptions.ignoringCase {}) ∧
    AnswersAlike switchedOn {} german ∧
    ∃ s, start switchedOn {} = .ok s ∧ ∃ s', (s.run [.trace]).session.withOptions german = .ok s' := by
  have htimeout (kind : FieldType) (h : HasLeaf kind timeoutStarts) : kind = .duration := by
    obtain ⟨name, htype, hname⟩ := (hasLeaf_field_iff (by decide)).mp h
    cases htype
    have hduration : FieldType.ofName? "duration" = some .duration := by decide +kernel
    exact Option.some.inj (hname.symm.trans hduration)
  have hswitch (kind : FieldType) (h : HasLeaf kind switchedOn) : kind = .boolean := by
    obtain ⟨name, htype, hname⟩ := (hasLeaf_field_iff (by decide)).mp h
    cases htype
    have hboolean : FieldType.ofName? "boolean" = some .boolean := by decide +kernel
    exact Option.some.inj (hname.symm.trans hboolean)
  obtain ⟨hlocale, hrun⟩ := (answersAlike_of_scope switchedOn {} german).2
    (fun h => by cases hswitch _ h) (fun h => by cases hswitch _ h) (fun h => by cases hswitch _ h)
  refine ⟨(answersAlike_of_scope timeoutStarts {} _).1 (fun h => by cases htimeout _ h) rfl,
    hlocale rfl, ?_⟩
  cases hs : start switchedOn {} with
  | error failure =>
    have hstart : failure? (start switchedOn {}) = none := by decide +kernel
    rw [hs] at hstart
    cases hstart
  | ok s => exact ⟨s, rfl, hrun s hs [.trace] german⟩

end Session

end RecordSieve
