/-
RecordSieve.Proofs.Collation.Congruence — equal strings can stand for
each other when searching.

Equality compares keys level by level, searching compares folds.  They
fit together because equal strings have one fold (`fold_eq_of_equal`),
and searching looks at nothing but folds.

Under one flag set this needs a condition.  If accents are ignored and
case is not, equality sees of each letter its lower case and whether it
is a capital, and the fold sees the letter itself.  The two differ for
letters that agree in both, such as the title-case U+01C5 and the small
U+01C6.  Strings that differ in such a letter are `Confusable`, and their
folds are different texts of one length (`fold_ne_of_confusable`), so
neither is found in the other: the condition is exact.
-/
import RecordSieve.Proofs.Outcome
import RecordSieve.Proofs.Text.Decomposition
import RecordSieve.Rule.Basic

namespace RecordSieve

namespace Collation

open Text

variable {flags : CompareFlags} {a a' b b' : String}

/-! ## Equal strings fold alike -/

/-- The letters of a text as they are: decomposed, without marks. -/
def letters (a : String) : List Char := stripMarks (decompose a.toList)

/-- Under flags that ignore accents and not case, the strings have in one
place different letters with one lower case, both capital or neither. -/
def Confusable (flags : CompareFlags) (a b : String) : Prop :=
  flags.ignoreAccents = true ∧ flags.ignoreCase = false ∧
    ∃ p ∈ (letters a).zip (letters b),
      p.1 ≠ p.2 ∧ lowercase p.1 = lowercase p.2 ∧ isUppercase p.1 = isUppercase p.2

instance (flags : CompareFlags) (a b : String) : Decidable (Confusable flags a b) :=
  inferInstanceAs (Decidable (_ ∧ _ ∧ _))

theorem dottedCapitalI_not_mem_letters (a : String) : dottedCapitalI ∉ letters a := fun h =>
  dottedCapitalI_not_mem_decompose _ (List.mem_filter.mp h).1

theorem equal_iff : equal flags a b = true ↔
    letterKey a = letterKey b ∧
    (flags.ignoreAccents = false → accentKey a = accentKey b) ∧
    (flags.ignoreCase = false → caseKey flags a = caseKey flags b) ∧
    (flags = {} → decompose a.toList = decompose b.toList) := by
  rw [equal_eq_true_iff, order]
  simp only [Ordering.then_eq_eq, Std.LawfulEqOrd.compare_eq_iff_eq]
  refine and_congr_right fun _ => and_congr ?_ (and_congr ?_ ?_)
  · cases flags.ignoreAccents <;> simp
  · cases flags.ignoreCase <;> simp
  · split <;> simp [*]

theorem letters_eq_of_equal (h : equal ⟨false, true⟩ a b = true)
    (hab : ¬ Confusable ⟨false, true⟩ a b) : letters a = letters b := by
  obtain ⟨hletters, -, hcase, -⟩ := equal_iff.mp h
  -- The letter keys are the lower case of the letters, the case keys their capitals.
  refine eq_of_lowercaseAll_eq (dottedCapitalI_not_mem_letters a)
    (dottedCapitalI_not_mem_letters b) hletters (hcase rfl) fun p hp hlower hupper => ?_
  exact Decidable.byContradiction fun hne => hab ⟨rfl, rfl, p, hp, hne, hlower, hupper⟩

/-- Equal strings have one fold, unless they can be confused. -/
theorem fold_eq_of_equal (h : equal flags a b = true) (hab : ¬ Confusable flags a b) :
    fold flags a = fold flags b := by
  obtain ⟨hletters, haccents, hcase, htext⟩ := equal_iff.mp h
  obtain ⟨ignoreCase, ignoreAccents⟩ := flags
  cases ignoreCase with
  | false =>
    cases ignoreAccents with
    | false => exact htext rfl
    | true => exact letters_eq_of_equal h hab
  | true =>
    cases ignoreAccents with
    | false => exact haccents rfl
    | true => exact hletters

/-- Equal strings that can be confused have folds of one length, and not
one fold. -/
theorem fold_ne_of_confusable (h : equal flags a b = true) (hab : Confusable flags a b) :
    (fold flags a).length = (fold flags b).length ∧ fold flags a ≠ fold flags b := by
  obtain ⟨ignoreCase, ignoreAccents⟩ := flags
  obtain ⟨haccents, hcase, p, hp, hne, -⟩ := hab
  dsimp only at haccents hcase
  subst haccents hcase
  obtain ⟨-, -, hcase, -⟩ := equal_iff.mp h
  have hcase : (letters a).map isUppercase = (letters b).map isUppercase := hcase rfl
  have hlength : (letters a).length = (letters b).length := by
    simpa using congrArg List.length hcase
  refine ⟨hlength, fun hfold => ?_⟩
  have hletters : letters a = letters b := hfold
  -- Zipped with itself, a text pairs no two different letters.
  rw [hletters, List.zip, List.zipWith_self, List.mem_map] at hp
  obtain ⟨c, -, rfl⟩ := hp
  exact hne rfl

/-! ## Searching -/

theorem infix_of_search {needle hay : List Char} {skip : Nat}
    (h : search flags needle skip hay = true) : needle <:+: hay := by
  fun_induction search flags needle skip hay with
  | case1 =>
    rw [Bool.and_eq_true, List.isEmpty_iff] at h
    exact h.1 ▸ List.nil_infix
  | case2 => cases h
  | case3 c cs hprefix => exact (List.isPrefixOf_iff_prefix.mp hprefix).isInfix
  | case4 c cs hprefix ih => exact List.infix_cons (ih h)
  | case5 skip c cs ih => exact List.infix_cons (ih h)

theorem search_self (hay : List Char) : search flags hay 0 hay = true := by
  cases hay with
  | nil => simp [search, endsCharacter]
  | cons c cs => simp [search, endsCharacter, List.isPrefixOf_iff_prefix]

/-- Searching looks at the folds only. -/
theorem search_eq_of_fold_eq (ha : fold flags a = fold flags a')
    (hb : fold flags b = fold flags b') :
    contains flags a b = contains flags a' b' ∧ startsWith flags a b = startsWith flags a' b' ∧
      endsWith flags a b = endsWith flags a' b' := by
  refine ⟨?_, ?_, ?_⟩
  · rw [contains, contains, ha, hb]
  · rw [startsWith, startsWith, ha, hb]
  · rw [endsWith, endsWith, ha, hb]

theorem search_of_fold_eq (h : fold flags a = fold flags b) :
    contains flags a b = true ∧ startsWith flags a b = true ∧ endsWith flags a b = true := by
  obtain ⟨hc, hs, he⟩ := search_eq_of_fold_eq h (rfl : fold flags b = fold flags b)
  rw [hc, hs, he]
  refine ⟨search_self _, ?_, ?_⟩
  · simp [startsWith, endsCharacter, List.isPrefixOf_iff_prefix]
  · simp [endsWith, List.isSuffixOf_iff_suffix]

/-- Folds of one length are only found in each other if they are one fold. -/
theorem not_search_of_fold_ne (hlength : (fold flags a).length = (fold flags b).length)
    (hne : fold flags a ≠ fold flags b) :
    contains flags a b = false ∧ startsWith flags a b = false ∧ endsWith flags a b = false := by
  have hinfix : ¬ fold flags b <:+: fold flags a := fun h => hne (h.eq_of_length hlength.symm).symm
  refine ⟨?_, ?_, ?_⟩
  · exact Bool.eq_false_iff.mpr fun h => hinfix (infix_of_search h)
  · refine Bool.eq_false_iff.mpr fun h => hinfix ?_
    rw [startsWith, Bool.and_eq_true, List.isPrefixOf_iff_prefix] at h
    exact h.1.isInfix
  · refine Bool.eq_false_iff.mpr fun h => hinfix ?_
    rw [endsWith, List.isSuffixOf_iff_suffix] at h
    exact h.isInfix

end Collation

/-! ## Rules -/

theorem coerceData_array (options : RuleOptions) (kind : FieldType) (items : List Json) :
    coerceData options kind (.array items) = .ok none := by
  cases kind <;> rfl

theorem TestContext.textTest_eq {ctx : TestContext} {token : Json} {data operand : String}
    (test : CompareFlags → String → String → Bool)
    (hdata : ctx.read token = .ok (some (.string data)))
    (hoperand : ctx.operand? 0 = some (.string operand)) :
    ctx.textTest test token = .ok (!data.isEmpty && !operand.isEmpty &&
      test ctx.options.compare data operand) := by
  rw [textTest, hdata, hoperand]
  rfl

theorem TestContext.contains_eq {ctx : TestContext} {token : Json} {data operand : String}
    (hdata : ctx.read token = .ok (some (.string data)))
    (hoperand : ctx.operand? 0 = some (.string operand)) :
    ctx.contains token = .ok (!data.isEmpty && !operand.isEmpty &&
      Collation.contains ctx.options.compare data operand) := by
  rw [contains, hoperand]
  cases token with
  | array items =>
    rw [read, coerceData_array] at hdata
    cases hdata
  | _ => dsimp only; rw [hdata]; rfl

theorem TestContext.equals_eq {ctx : TestContext} {token : Json} {data operand : String}
    (hdata : ctx.read token = .ok (some (.string data)))
    (hoperand : ctx.operand? 0 = some (.string operand)) :
    ctx.equals token = .ok (Collation.equal ctx.options.compare data operand) := by
  rw [equals, hdata, hoperand]
  show Except.ok (ctx.equal (.string data) (.string operand)) = _
  rw [equal, FieldValue.equal, FieldValue.order?, Option.some_beq_some, Collation.equal]

namespace FieldRule

/-- The rule with the operator of another family. -/
def withFamily (r : FieldRule) (family : OperatorFamily) : FieldRule :=
  { r with family := family, negated := false }

theorem evaluate_withFamily {options : RuleOptions} {record token : Json} {r : FieldRule}
    (family : OperatorFamily) (h : record.resolve r.field = some token) :
    (r.withFamily family).evaluate options record = family.holds (r.context options) token := by
  have hfield : (r.withFamily family).field = r.field := rfl
  rw [evaluate, hfield, h]
  show (do return (← family.holds (r.context options) token) != false) = _
  cases family.holds (r.context options) token with
  | error abort => rfl
  | ok b => cases b <;> rfl

end FieldRule

namespace Collation

/-! ## Congruence -/

/-- A string rule whose data equal its operand, both not empty, holds
with Contains, BeginsWith and EndsWith in place of Equal. -/
theorem holds_of_equal_holds {options : RuleOptions} {record token : Json} {r : FieldRule}
    {data operand : String} (htoken : record.resolve r.field = some token)
    (hdata : (r.context options).read token = .ok (some (.string data)))
    (hoperand : (r.context options).operand? 0 = some (.string operand))
    (hdata' : data ≠ "") (hoperand' : operand ≠ "")
    (hab : ¬ Confusable options.compare data operand)
    (h : (r.withFamily .equal).evaluate options record = .ok true) :
    ∀ family ∈ [.contains, .beginsWith, .endsWith],
      (r.withFamily family).evaluate options record = .ok true := by
  rw [FieldRule.evaluate_withFamily _ htoken, OperatorFamily.holds,
    TestContext.equals_eq hdata hoperand, Except.ok.injEq] at h
  obtain ⟨hc, hs, he⟩ := search_of_fold_eq (fold_eq_of_equal h hab)
  have hdata' : data.isEmpty = false := by simpa using hdata'
  have hoperand' : operand.isEmpty = false := by simpa using hoperand'
  simp only [List.forall_mem_cons, FieldRule.evaluate_withFamily _ htoken, OperatorFamily.holds,
    TestContext.contains_eq hdata hoperand, TestContext.textTest_eq _ hdata hoperand, hdata',
    hoperand']
  exact ⟨congrArg Except.ok hc, congrArg Except.ok hs, congrArg Except.ok he, by simp⟩

/-- The title-case U+01C5 and the small U+01C6 are equal if only accents
are ignored: they have one lower case and neither is a capital. -/
theorem not_congruence_of_titleCase :
    ¬ ∀ (flags : CompareFlags) (a a' b b' : String),
      equal flags a a' = true → equal flags b b' = true →
        contains flags a b = contains flags a' b' ∧ startsWith flags a b = startsWith flags a' b' ∧
          endsWith flags a b = endsWith flags a' b' := by
  intro h
  obtain ⟨hcontains, -⟩ := h ⟨false, true⟩ "\u01C5" "\u01C6" "\u01C5" "\u01C5"
    (by decide +kernel) (by decide +kernel)
  exact absurd hcontains (by decide +kernel)

/-- Equal strings that cannot be confused stand for each other in every
search, are found in each other, and so a string rule that holds with
Equal holds with the operators that search.  Equal strings that can be
confused are not found in each other. -/
theorem search_congruence (flags : CompareFlags) :
    (∀ a a' b b' : String, equal flags a a' = true → equal flags b b' = true →
      ¬ Confusable flags a a' → ¬ Confusable flags b b' →
        contains flags a b = contains flags a' b' ∧ startsWith flags a b = startsWith flags a' b' ∧
          endsWith flags a b = endsWith flags a' b') ∧
    (∀ a b : String, equal flags a b = true → ¬ Confusable flags a b →
      contains flags a b = true ∧ startsWith flags a b = true ∧ endsWith flags a b = true) ∧
    (∀ (options : RuleOptions) (record token : Json) (r : FieldRule) (data operand : String),
      options.compare = flags → record.resolve r.field = some token →
      (r.context options).read token = .ok (some (.string data)) →
      (r.context options).operand? 0 = some (.string operand) → data ≠ "" → operand ≠ "" →
      ¬ Confusable flags data operand →
      (r.withFamily .equal).evaluate options record = .ok true →
        ∀ family ∈ [.contains, .beginsWith, .endsWith],
          (r.withFamily family).evaluate options record = .ok true) ∧
    (∀ a b : String, equal flags a b = true → Confusable flags a b →
      contains flags a b = false ∧ startsWith flags a b = false ∧ endsWith flags a b = false) := by
  refine ⟨?_, ?_, ?_, ?_⟩
  · intro a a' b b' ha hb hca hcb
    exact search_eq_of_fold_eq (fold_eq_of_equal ha hca) (fold_eq_of_equal hb hcb)
  · intro a b h hc
    exact search_of_fold_eq (fold_eq_of_equal h hc)
  · intro options record token r data operand hflags htoken hdata hoperand hdata' hoperand' hc h
    subst hflags
    exact holds_of_equal_holds htoken hdata hoperand hdata' hoperand' hc h
  · intro a b h hc
    obtain ⟨hlength, hne⟩ := fold_ne_of_confusable h hc
    exact not_search_of_fold_ne hlength hne

/-- The name is "Ne". -/
def nameRule : FieldRule :=
  ⟨"name", .string, .equal, false, some (.string "Ne"), [some (.string "Ne")]⟩

/-- Without accents the name "Né" and "Ne" are equal and are found alike,
also by a rule; a letter in title case and its small letter are equal and
not found in each other. -/
theorem search_congruence_ne :
    equal ⟨false, true⟩ "Né" "Ne" = true ∧ ¬ Confusable ⟨false, true⟩ "Né" "Ne" ∧
      contains ⟨false, true⟩ "Né" "e" = contains ⟨false, true⟩ "Ne" "é" ∧
      endsWith ⟨false, true⟩ "Né" "Ne" = true ∧
      (nameRule.withFamily .beginsWith).evaluate { compare := ⟨false, true⟩ }
        (.ofMembers [("name", .string "Né")]) = .ok true ∧
      contains ⟨false, true⟩ "\u01C5" "\u01C6" = false := by
  obtain ⟨hcongruence, hself, hrule, hconfusable⟩ := search_congruence ⟨false, true⟩
  have h : equal ⟨false, true⟩ "Né" "Ne" = true := by decide +kernel
  have hc : ¬ Confusable ⟨false, true⟩ "Né" "Ne" := by decide +kernel
  have hbegins := hrule { compare := ⟨false, true⟩ } (.ofMembers [("name", .string "Né")])
    (.string "Né") nameRule "Né" "Ne" rfl rfl rfl rfl (by decide) (by decide) hc
    (by decide +kernel) .beginsWith (by simp)
  exact ⟨h, hc, (hcongruence _ _ "e" "é" h (by decide +kernel) hc (by decide +kernel)).1,
    (hself _ _ h hc).2.2, hbegins,
    (hconfusable _ _ (by decide +kernel) (by decide +kernel)).1⟩

end Collation

end RecordSieve
