/-
RecordSieve.Proofs.Rule.Spelling — the texts that name an operator.

`Spelling` says of a text and a name, character by character, that the
letters of the text are the name's: a letter counts in either case, and
what is no ASCII letter does not count, not even a character that has one
for its capital, such as the long s.  The lookup of operators compares
the letters of both in lower case, which comes to the same for a name
that is letters only (`spelling_iff`).

A text is respelled by inserting or deleting what is no letter, and by
changing the case of a letter.  One such step keeps the letters
(`letters_of_respelling`), so a run of them keeps the operator that is
named, or that none is; and from the name itself every spelling can be
reached (`Spelling.reached`).
-/
import Mathlib.Logic.Relation
import RecordSieve.Proofs.Rule.Definition
import RecordSieve.Proofs.Rule.Names
import RecordSieve.Proofs.Text.Letter

namespace RecordSieve

open Relation

/-! ## Spellings -/

namespace Text

/-- The letters of a text are, in order and each in either case, those of
a name; its other characters may stand anywhere. -/
inductive Spelling : (name text : List Char) → Prop
  | nil : Spelling [] []
  | skip {name text : List Char} {c : Char} : ¬ IsLetter c → Spelling name text →
      Spelling name (c :: text)
  | letter {name text : List Char} {c d : Char} : SameLetter d c → Spelling name text →
      Spelling (d :: name) (c :: text)

/-- One change to a spelling. -/
inductive Respelling : List Char → List Char → Prop
  | insert (front back : List Char) {c : Char} : ¬ IsLetter c →
      Respelling (front ++ back) (front ++ c :: back)
  | delete (front back : List Char) {c : Char} : ¬ IsLetter c →
      Respelling (front ++ c :: back) (front ++ back)
  | recase (front back : List Char) {c d : Char} : SameLetter c d →
      Respelling (front ++ c :: back) (front ++ d :: back)

/-- The ASCII letters of a text, in lower case. -/
def letters (text : List Char) : List Char := lowerAscii (text.filter Operator.isNameLetter)

variable {name text text' : List Char} {c : Char}

theorem letters_append (front back : List Char) :
    letters (front ++ back) = letters front ++ letters back := by
  simp [letters, lowerAscii]

theorem letters_cons_of_not_isLetter (h : ¬ IsLetter c) : letters (c :: text) = letters text := by
  have hc : Operator.isNameLetter c = false := Bool.eq_false_iff.mpr fun hc => h (isAlpha_iff.mp hc)
  rw [letters, List.filter_cons_of_neg (by simp [hc]), letters]

theorem letters_cons_of_isLetter (h : IsLetter c) :
    letters (c :: text) = c.toLower :: letters text := by
  have hc : Operator.isNameLetter c = true := isAlpha_iff.mpr h
  rw [letters, List.filter_cons_of_pos hc]
  rfl

/-- A name that is letters only has the texts with its letters for spellings. -/
theorem spelling_iff (hname : ∀ c ∈ name, IsLetter c) :
    Spelling name text ↔ letters text = lowerAscii name := by
  constructor
  · intro h
    clear hname
    induction h with
    | nil => rfl
    | skip hc _ ih => rw [letters_cons_of_not_isLetter hc, ih]
    | letter hsame _ ih =>
      obtain ⟨-, hc, hlower⟩ := sameLetter_iff.mp hsame
      rw [letters_cons_of_isLetter hc, ih, ← hlower]
      rfl
  · intro h
    induction text generalizing name with
    | nil =>
      cases name with
      | nil => exact .nil
      | cons d name => cases h
    | cons c text ih =>
      by_cases hc : IsLetter c
      · rw [letters_cons_of_isLetter hc] at h
        cases name with
        | nil => cases h
        | cons d name =>
          obtain ⟨hd, hname⟩ := List.forall_mem_cons.mp hname
          obtain ⟨hlower, htext⟩ := List.cons.inj h
          exact .letter (sameLetter_iff.mpr ⟨hd, hc, hlower.symm⟩) (ih hname htext)
      · rw [letters_cons_of_not_isLetter hc] at h
        exact .skip hc (ih hname h)

/-- A change to a spelling keeps the letters. -/
theorem letters_of_respelling (h : Respelling text text') : letters text' = letters text := by
  cases h with
  | insert front back hc =>
    rw [letters_append, letters_append, letters_cons_of_not_isLetter hc]
  | delete front back hc =>
    rw [letters_append, letters_append, letters_cons_of_not_isLetter hc]
  | recase front back hsame =>
    obtain ⟨hc, hd, hlower⟩ := sameLetter_iff.mp hsame
    rw [letters_append, letters_append, letters_cons_of_isLetter hc, letters_cons_of_isLetter hd,
      hlower]

/-- So does a run of them. -/
theorem letters_of_reached (h : ReflTransGen Respelling text text') :
    letters text' = letters text := by
  induction h with
  | refl => rfl
  | tail _ hstep ih => rw [letters_of_respelling hstep, ih]

theorem Respelling.cons (c : Char) (h : Respelling text text') :
    Respelling (c :: text) (c :: text') := by
  cases h with
  | insert front back hc => exact .insert (c :: front) back hc
  | delete front back hc => exact .delete (c :: front) back hc
  | recase front back hsame => exact .recase (c :: front) back hsame

theorem Respelling.symm (h : Respelling text text') : Respelling text' text := by
  cases h with
  | insert front back hc => exact .delete front back hc
  | delete front back hc => exact .insert front back hc
  | recase front back hsame =>
    obtain ⟨i, hc, hd⟩ := hsame
    exact .recase front back ⟨i, hd, hc⟩

instance : Std.Symm Respelling := ⟨fun _ _ h => h.symm⟩

/-- Every spelling of a name is reached from it. -/
theorem Spelling.reached (h : Spelling name text) : ReflTransGen Respelling name text := by
  induction h with
  | nil => exact .refl
  | skip hc _ ih => exact ih.tail (.insert [] _ hc)
  | letter hsame _ ih => exact (ih.lift _ fun _ _ h => h.cons _).tail (.recase [] _ hsame)

end Text

open Text

/-! ## Operators -/

namespace Operator

variable {op : Operator}

/-- The operator that a text names, or the refusal of the text. -/
def named (text : String) : Attempt RuleError Operator :=
  Attempt.ofOption (.unknownOperator text) (ofName? text)

theorem isLetter_of_mem_name (op : Operator) : ∀ c ∈ op.name.toList, IsLetter c := by
  have hname : ∀ c ∈ op.name.toList, c.isAlpha = true := by cases op <;> decide
  exact fun c hc => isAlpha_iff.mp (hname c hc)

theorem spells_iff_spelling {text : String} :
    Spells text op ↔ Spelling op.name.toList text.toList :=
  (spelling_iff op.isLetter_of_mem_name).symm

theorem ofName?_eq_some_iff_spelling {text : String} :
    ofName? text = some op ↔ Spelling op.name.toList text.toList :=
  ofName?_eq_some_iff.trans spells_iff_spelling

theorem named_eq_ok_iff {text : String} :
    named text = .ok op ↔ Spelling op.name.toList text.toList := by
  rw [named, ofOption_eq_ok_iff, ofName?_eq_some_iff_spelling]

theorem named_eq_refuse_iff {text : String} : named text = Attempt.refuse (.unknownOperator text) ↔
    ∀ op : Operator, ¬ Spelling op.name.toList text.toList := by
  simp only [← ofName?_eq_some_iff_spelling, named]
  cases ofName? text with
  | none => simp [Attempt.ofOption]
  | some op => simp [Attempt.ofOption, Attempt.refuse]

/-- What is named depends on the letters of a text alone. -/
theorem ofName?_of_reached {text text' : String}
    (h : ReflTransGen Respelling text.toList text'.toList) : ofName? text' = ofName? text := by
  have hletters : lettersOf text' = lettersOf text := letters_of_reached h
  rw [ofName?, ofName?, hletters]

/-- The operator of a field rule, put together again from its family and
its negation, is the one that its definition spells. -/
theorem named_of_fieldRuleOf {options : RuleOptions} {members : List (String × Json)}
    {r : FieldRule} (h : Definition.fieldRuleOf options members = .ok r) :
    ∃ text, members.lookup "operator" = some (.string text) ∧ named text = .ok r.operator := by
  obtain ⟨head, operands, hhead, -, rfl⟩ := Definition.fieldRuleOf_eq_ok_iff.mp h
  obtain ⟨field, typeName, kind, text, op, -, -, -, htext, hop, rfl⟩ :=
    Definition.headOf_eq_ok_iff.mp hhead
  have hoperator : (FieldRule.new field kind op).operator = op := op.operator_split
  exact ⟨text, htext, ofOption_eq_ok_iff.mpr (hop.trans (congrArg some hoperator.symm))⟩

/-- A text names the operator that it spells, and is refused if it spells
none.  To insert or delete what is no letter and to change the case of
letters, any number of times, changes nothing in that, and the texts that
name one operator are all reached from each other in this way.  No text
spells two operators.  The operator that is named, taken apart into its
family and its negation and put together again, is the one spelled, also
in the field rule of a definition. -/
theorem named_spelling :
    (∀ (text : String) (op : Operator),
      named text = .ok op ↔ Spelling op.name.toList text.toList) ∧
    (∀ text : String, named text = Attempt.refuse (.unknownOperator text) ↔
      ∀ op : Operator, ¬ Spelling op.name.toList text.toList) ∧
    (∀ text text' : String, ReflTransGen Respelling text.toList text'.toList →
      ofName? text' = ofName? text) ∧
    (∀ (text text' : String) (op : Operator), named text = .ok op → named text' = .ok op →
      ReflTransGen Respelling text.toList text'.toList) ∧
    (∀ (text : String) (a b : Operator), Spelling a.name.toList text.toList →
      Spelling b.name.toList text.toList → a = b) ∧
    (∀ (text : String) (op : Operator), named text = .ok op →
      op.split.1.operator op.split.2 = op ∧
      Spelling (op.split.1.operator op.split.2).name.toList text.toList) ∧
    ∀ (options : RuleOptions) (members : List (String × Json)) (r : FieldRule),
      Definition.fieldRuleOf options members = .ok r →
      ∃ text, members.lookup "operator" = some (.string text) ∧ named text = .ok r.operator := by
  refine ⟨fun _ _ => named_eq_ok_iff, fun _ => named_eq_refuse_iff, fun _ _ => ofName?_of_reached,
    ?_, ?_, ?_, fun _ _ _ => named_of_fieldRuleOf⟩
  · intro text text' op h h'
    have hback : ReflTransGen Respelling text.toList op.name.toList :=
      ReflTransGen.stdSymm.symm _ _ (named_eq_ok_iff.mp h).reached
    exact hback.trans (named_eq_ok_iff.mp h').reached
  · intro text a b ha hb
    have ha' := ofName?_eq_some_iff_spelling.mpr ha
    rw [ofName?_eq_some_iff_spelling.mpr hb] at ha'
    exact (Option.some.inj ha').symm
  · intro text op h
    rw [op.operator_split]
    exact ⟨rfl, named_eq_ok_iff.mp h⟩

/-- A field rule that asks for an amount of at most ten. -/
def atMostTen : List (String × Json) :=
  [("field", .string "amount"), ("operator", .string "less-or-EQUAL"), ("type", .string "integer"),
    ("value", .string "10")]

/-- `in` is the end of `not in`, and `lessOrEqual`, the negation of
greater, begins with `less`; none is taken for another. -/
theorem named_spelling_samples :
    (ReflTransGen Respelling "in".toList "I_n".toList ∧ ofName? "I_n" = ofName? "in") ∧
    (named "not in" = .ok notIn ∧ named "Not-In" = .ok notIn ∧
      ReflTransGen Respelling "not in".toList "Not-In".toList) ∧
    (Spelling isIn.name.toList "in".toList ∧ ¬ Spelling notIn.name.toList "in".toList) ∧
    (named "less or equal" = .ok lessOrEqual ∧
      lessOrEqual.split.1.operator lessOrEqual.split.2 = lessOrEqual) ∧
    ∃ r, Definition.fieldRuleOf {} atMostTen = .ok r ∧ named "less-or-EQUAL" = .ok r.operator := by
  obtain ⟨hok, -, hreached, hsame, hunique, hsplit, hrule⟩ := named_spelling
  have hin : ReflTransGen Respelling "in".toList "I_n".toList :=
    (ReflTransGen.single (.insert ['i'] ['n'] (c := '_') (by decide))).tail
      (.recase [] ['_', 'n'] ⟨8, by decide, by decide⟩)
  have hspelling : Spelling isIn.name.toList "in".toList := (hok "in" isIn).mp (by decide)
  obtain ⟨r, hr⟩ : ∃ r, Definition.fieldRuleOf {} atMostTen = .ok r := ⟨_, rfl⟩
  obtain ⟨text, htext, hnamed⟩ := hrule {} atMostTen r hr
  cases htext
  refine ⟨⟨hin, hreached _ _ hin⟩, ⟨by decide, by decide, hsame _ _ notIn (by decide) (by decide)⟩,
    ⟨hspelling, fun hnot => ?_⟩, ⟨by decide, (hsplit "less or equal" _ (by decide)).1⟩, r, hr, hnamed⟩
  cases hunique "in" isIn notIn hspelling hnot

end Operator

end RecordSieve
