/-
RecordSieve.Proofs.Rule.Relaxation — matches under more flags.

Turning a flag on changes nothing in how a definition or a record is
read, so a rule asks the same question of the same value, under larger
flags (`TestContext.Relaxes`).  A test that asks for equality, or for one
text at an end of another, then holds on.

A test that asks for one text inside another need not: with case ignored
the search can pass over what it found before, if the operand recurs at a
mark (`FieldRule.CanLose`).
-/
import RecordSieve.Proofs.Collation.Relaxation
import RecordSieve.Proofs.Rule.Tests
import RecordSieve.Proofs.Session.Run

namespace RecordSieve

open Collation

variable {F G : CompareFlags} {options options' : RuleOptions} {record token : Json}

theorem RuleOptions.compare_le_ignoringCase (options : RuleOptions) :
    options.compare ≤ options.ignoringCase.compare := ⟨fun _ => rfl, id⟩

theorem RuleOptions.compare_le_ignoringAccents (options : RuleOptions) :
    options.compare ≤ options.ignoringAccents.compare := ⟨id, fun _ => rfl⟩

theorem FieldValue.equal_of_le (h : F ≤ G) {v c : FieldValue} (hvc : equal F v c = true) :
    equal G v c = true := by
  cases v with
  | string a =>
    cases c with
    | string b =>
      have hab : Collation.equal F a b = true := by
        simpa [FieldValue.equal, order?, Collation.equal] using hvc
      simpa [FieldValue.equal, order?, Collation.equal] using Collation.equal_of_le h hab
    | _ => exact hvc
  | _ => cases c <;> exact hvc

/-! ## Tests -/

namespace TestContext

/-- The second test is the first one under flags that ignore no less. -/
structure Relaxes (ctx ctx' : TestContext) : Prop extends ReadsAlike ctx ctx' where
  flags : ctx.options.compare ≤ ctx'.options.compare

namespace Relaxes

variable {ctx ctx' : TestContext} {v c : FieldValue}

theorem equal (h : ctx.Relaxes ctx') (hvc : ctx.equal v c = true) : ctx'.equal v c = true :=
  FieldValue.equal_of_le h.flags hvc

theorem equals (h : ctx.Relaxes ctx') (hholds : ctx.equals token = .ok true) :
    ctx'.equals token = .ok true := by
  rw [equals_eq_map] at hholds ⊢
  rw [← h.read_eq]
  refine map_any_mono (fun v hv => ?_) hholds
  rw [equalsFirst, Option.any_eq_true] at hv ⊢
  obtain ⟨c, hc, hvc⟩ := hv
  exact ⟨c, h.operand?_eq 0 ▸ hc, h.equal hvc⟩

theorem isListed (h : ctx.Relaxes ctx') (hholds : ctx.isListed token = .ok true) :
    ctx'.isListed token = .ok true := by
  rw [isListed_eq_map] at hholds ⊢
  rw [← h.read_eq]
  refine map_any_mono (fun v hv => ?_) hholds
  simp only [equalsAny, List.any_eq_true, Option.any_eq_true] at hv ⊢
  obtain ⟨item, hitem, c, hc, hvc⟩ := hv
  exact ⟨item, h.operands ▸ hitem, c, hc, h.equal hvc⟩

/-- A test of texts that holds on under larger flags makes a test of data
that does. -/
theorem textTest (h : ctx.Relaxes ctx') {test : CompareFlags → String → String → Bool}
    (htest : ∀ a b, test ctx.options.compare a b = true → test ctx'.options.compare a b = true)
    (hholds : ctx.textTest test token = .ok true) : ctx'.textTest test token = .ok true := by
  rw [textTest_eq_map] at hholds ⊢
  rw [← h.read_eq]
  refine map_any_mono (fun v hv => ?_) hholds
  simp only [Option.any_eq_true, textsPass, Bool.and_eq_true] at hv ⊢
  obtain ⟨c, hc, hnonempty, hpass⟩ := hv
  exact ⟨c, h.operand?_eq 0 ▸ hc, hnonempty, htest _ _ hpass⟩

theorem valueContains (h : ctx.Relaxes ctx')
    (hneedle : ctx.options.compare ≠ ctx'.options.compare →
      ctx'.options.compare.ignoreAccents = false →
      ∀ needle, c = .string needle → ¬ RecursAtMark (fold ctx'.options.compare needle))
    (hvc : ctx.valueContains v c = true) : ctx'.valueContains v c = true := by
  unfold TestContext.valueContains at hvc ⊢
  split
  · next hay needle =>
    simp only [Bool.and_eq_true] at hvc ⊢
    exact ⟨hvc.1, contains_of_le h.flags (fun hne haccents => hneedle hne haccents needle rfl) hvc.2⟩
  · next htexts =>
    split at hvc
    · next hay needle => exact (htexts hay needle rfl rfl).elim
    · exact h.equal hvc

/-- An array that has an item equal to a value still has one. -/
theorem anyM_itemEquals (h : ctx.Relaxes ctx') {items : List Json}
    (hholds : items.anyM (ctx.itemEquals c) = .ok true) :
    items.anyM (ctx'.itemEquals c) = .ok true := by
  refine anyM_mono (fun item b hb => ?_) hholds
  rw [itemEquals_eq_map] at hb
  rw [itemEquals_eq_map, ← h.read_eq]
  -- Reading goes as before, so the item gives some answer, and yes where it was yes.
  cases hread : ctx.read item with
  | error abort => rw [hread] at hb; cases hb
  | ok data =>
    refine ⟨_, rfl, fun htrue => ?_⟩
    rw [hread, htrue] at hb
    exact Except.ok.inj (map_any_mono (fun v => h.equal) hb)

theorem contains (h : ctx.Relaxes ctx')
    (hneedle : ctx.options.compare ≠ ctx'.options.compare →
      ctx'.options.compare.ignoreAccents = false → ∀ needle,
      ctx.operand? 0 = some (.string needle) → ¬ RecursAtMark (fold ctx'.options.compare needle))
    (hholds : ctx.contains token = .ok true) : ctx'.contains token = .ok true := by
  cases hc : ctx.operand? 0 with
  | none =>
    rw [contains_of_missing hc] at hholds
    cases hholds
  | some c =>
    have hc' : ctx'.operand? 0 = some c := h.operand?_eq 0 ▸ hc
    by_cases htoken : ∃ items, token = .array items
    · obtain ⟨items, rfl⟩ := htoken
      rw [contains_array hc] at hholds
      rw [contains_array hc']
      exact h.anyM_itemEquals hholds
    · have htoken : ∀ items, token ≠ .array items := fun items hitems => htoken ⟨items, hitems⟩
      rw [contains_of_not_array hc htoken] at hholds
      rw [contains_of_not_array hc' htoken, ← h.read_eq]
      refine map_any_mono (fun v => h.valueContains fun hne haccents needle hcn => ?_) hholds
      exact hneedle hne haccents needle (hcn ▸ hc)

end Relaxes

end TestContext

/-! ## Rules -/

/-- The operators that ask whether something matches. -/
def Operator.matching : List Operator := [equal, isIn, contains, beginsWith, endsWith]

namespace FieldRule

/-- The rule looks for a text that recurs at a mark, and of the flags that
`G` has beyond `F` none ignores the marks. -/
def CanLose (F G : CompareFlags) (r : FieldRule) : Prop :=
  r.operator = .contains ∧ F ≠ G ∧ G.ignoreAccents = false ∧
    ∃ needle, r.operands[0]? = some (some (.string needle)) ∧ RecursAtMark (fold G needle)

theorem not_negated_of_matching {r : FieldRule} (hop : r.operator ∈ Operator.matching) :
    r.negated = false := by
  have hsplit : r.operator.split.2 = r.negated := congrArg Prod.snd r.split_operator
  rw [← hsplit]
  simp only [Operator.matching, List.mem_cons, List.not_mem_nil, or_false] at hop
  rcases hop with h | h | h | h | h <;> rw [h] <;> rfl

/-- Data that pass a matching test still do under flags that ignore more. -/
theorem holds_of_le {r : FieldRule} (h : (r.context options).Relaxes (r.context options'))
    (hop : r.operator ∈ Operator.matching)
    (hkept : ¬ r.CanLose options.compare options'.compare)
    (hholds : r.family.holds (r.context options) token = .ok true) :
    r.family.holds (r.context options') token = .ok true := by
  have hfamily : r.operator.split.1 = r.family := congrArg Prod.fst r.split_operator
  rw [← hfamily] at hholds ⊢
  simp only [Operator.matching, List.mem_cons, List.not_mem_nil, or_false] at hop
  rcases hop with hop | hop | hop | hop | hop <;> rw [hop] at hholds ⊢
  · exact h.equals hholds
  · exact h.isListed hholds
  · refine h.contains (fun hne haccents needle hneedle hrecurs => hkept ?_) hholds
    exact ⟨hop, hne, haccents, needle, Option.join_eq_some_iff.mp hneedle, hrecurs⟩
  · exact h.textTest (fun _ _ => startsWith_of_le h.flags) hholds
  · exact h.textTest (fun _ _ => endsWith_of_le h.flags) hholds

/-- A record that matches still does under flags that ignore more. -/
theorem evaluate_of_le {r : FieldRule} (hlocale : options.locale = options'.locale)
    (hflags : options.compare ≤ options'.compare) (hop : r.operator ∈ Operator.matching)
    (hkept : ¬ r.CanLose options.compare options'.compare)
    (hmatch : r.evaluate options record = .ok true) : r.evaluate options' record = .ok true := by
  cases htoken : record.resolve r.field with
  | none =>
    rw [evaluate_of_missing htoken] at hmatch ⊢
    rw [← hmatch, r.holdsMissing_context options' options]
  | some token =>
    have hrelaxes : (r.context options).Relaxes (r.context options') :=
      ⟨⟨rfl, rfl, fun _ => hlocale⟩, hflags⟩
    have hnegated := not_negated_of_matching hop
    rw [evaluate_of_token htoken, hnegated, map_bne_false] at hmatch ⊢
    exact holds_of_le hrelaxes hop hkept hmatch

end FieldRule

/-! ## Sessions -/

namespace Collation

/-- Ignoring more loses no match of two strings, and none of a record
with a rule of a matching operator, unless a text is looked for that
recurs at a mark, and case comes to be ignored while accents count. -/
theorem matches_of_le (h : F ≤ G) :
    (∀ a b, equal F a b = true → equal G a b = true) ∧
    (∀ a b, startsWith F a b = true → startsWith G a b = true) ∧
    (∀ a b, endsWith F a b = true → endsWith G a b = true) ∧
    (∀ a b, (F ≠ G → G.ignoreAccents = false → ¬ RecursAtMark (fold G b)) →
      contains F a b = true → contains G a b = true) ∧
    ∀ (definition : Json) (locale : Locale) (s : Session),
      Session.start definition ⟨locale, F⟩ = .ok s →
        ∃ s', s.withOptions ⟨locale, G⟩ = .ok s' ∧ s'.root = s.root ∧
          ∀ r record, s.root = .field r → r.operator ∈ Operator.matching → ¬ r.CanLose F G →
            s.evaluate record = .ok true → s'.evaluate record = .ok true := by
  refine ⟨fun _ _ => equal_of_le h, fun _ _ => startsWith_of_le h, fun _ _ => endsWith_of_le h,
    fun _ _ => contains_of_le h, fun definition locale s hs => ?_⟩
  have hreading := (Session.isReading_of_start hs).1
  refine ⟨_, hreading.withOptions_eq (Rule.ofJson_eq_of_locale fun _ _ _ => rfl), rfl, ?_⟩
  intro r record hroot hop hkept hmatch
  rw [Session.evaluate, hreading.sameOptions, hroot, Rule.evaluate] at hmatch
  rw [Session.evaluate, hroot, Rule.evaluate]
  exact @FieldRule.evaluate_of_le ⟨locale, F⟩ ⟨locale, G⟩ record r rfl h hop hkept hmatch

/-- In U+00C1, U+00E1, a the second letter and the third are the needle.
With case ignored the needle first matches the first two letters, up to
the accent of the second, and is then looked for only behind them. -/
theorem not_contains_of_le : ¬ ∀ (F G : CompareFlags) (a b : String), F ≤ G →
    contains F a b = true → contains G a b = true := by
  intro h
  have hlost := h {} ⟨true, false⟩ "\u00C1\u00E1a" "\u00E1a" (by decide) (by decide +kernel)
  exact absurd hlost (by decide +kernel)

/-- The rule that a name contains a text. -/
def nameContains (text : String) : Json :=
  .ofMembers [("field", .string "name"), ("type", .string "string"),
    ("operator", .string "contains"), ("value", .string text)]

def nameRecord (name : String) : Json := .ofMembers [("name", .string name)]

/-- A needle without marks is found with case ignored, or accents, where
it was found before. -/
theorem matches_of_le_plain :
    ∃ s, Session.start (nameContains "Hat") {} = .ok s ∧
      (∃ s', s.withOptions (RuleOptions.ignoringCase {}) = .ok s' ∧
        s'.evaluate (nameRecord "Manhattan Hats") = .ok true) ∧
      ∃ s', s.withOptions (RuleOptions.ignoringAccents {}) = .ok s' ∧
        s'.evaluate (nameRecord "Manhattan Hats") = .ok true := by
  have hstart : (Session.start (nameContains "Hat") {}).map
      (·.evaluate (nameRecord "Manhattan Hats")) = .ok (.ok true) := by
    decide +kernel
  cases hs : Session.start (nameContains "Hat") {} with
  | error failure => rw [hs] at hstart; cases hstart
  | ok s =>
    rw [hs] at hstart
    have htree : s.root = .field ⟨"name", .string, .contains, false, some (.string "Hat"),
        [some (.string "Hat")]⟩ :=
      (Except.ok.inj (Session.isReading_of_start hs).1.tree).symm
    have hkept (G : CompareFlags) (h : ({} : CompareFlags) ≤ G)
        (hplain : (fold G "Hat").any Text.isMark = false) :
        ∃ s', s.withOptions ⟨.invariant, G⟩ = .ok s' ∧
          s'.evaluate (nameRecord "Manhattan Hats") = .ok true := by
      obtain ⟨-, -, -, -, hrules⟩ := matches_of_le h
      obtain ⟨s', hs', -, hmatches⟩ := hrules (nameContains "Hat") .invariant s hs
      refine ⟨s', hs', hmatches _ _ htree (by decide) ?_ (Except.ok.inj hstart)⟩
      rintro ⟨-, -, -, needle, hneedle, hrecurs⟩
      cases hneedle
      exact not_recursAtMark (by simpa using hplain) hrecurs
    exact ⟨s, rfl, hkept _ (RuleOptions.compare_le_ignoringCase {}) (by decide +kernel),
      hkept _ (RuleOptions.compare_le_ignoringAccents {}) (by decide +kernel)⟩

end Collation

end RecordSieve
