/-
RecordSieve.Proofs.Rule.DottedField — a dotted field leads down a record
one name after the other.

`DottedNames` says which names stand between the dots of a field, dots in
front, at the end and next to each other included; every field has
exactly one list of them (`dottedNames_iff`).  `LeadsTo` says how names
lead from one value to another.  To resolve a field is the one after the
other (`resolve_eq_some_iff`).

A dot between two fields cuts their names apart (`segments_append_dot`),
so a field of two parts is resolved part by part, and a rule on it is the
rule on the second part, asked where the first part leads.
-/
import RecordSieve.Json.Path
import RecordSieve.Rule.Basic

namespace RecordSieve

open Text

/-! ## Names between dots -/

theorem Text.splitWhere_eq_splitOnP (isSep : Char → Bool) (cs : List Char) :
    splitWhere isSep cs = cs.splitOnP isSep := by
  induction cs with
  | nil => rw [splitWhere, List.splitOnP_nil]
  | cons c cs ih =>
    rw [splitWhere, List.splitOnP_cons_eq_if_modifyHead, ih]
    split
    · rfl
    · cases h : cs.splitOnP isSep with
      | nil => exact absurd h (List.splitOnP_ne_nil _ _)
      | cons piece pieces => rfl

/-- Whether a character is the dot between names. -/
abbrev Json.isDot (c : Char) : Bool := c == '.'

namespace Json

variable {cs name : List Char} {names : List (List Char)} {record value : Json}

/-- The names between the dots of a text; nothing between two dots, or
between a dot and an end of the text, is no name. -/
inductive DottedNames : List Char → List (List Char) → Prop
  | empty : DottedNames [] []
  | dot {cs : List Char} {names : List (List Char)} : DottedNames cs names →
      DottedNames ('.' :: cs) names
  | last {name : List Char} : name ≠ [] → '.' ∉ name → DottedNames name [name]
  | next {name cs : List Char} {names : List (List Char)} : name ≠ [] → '.' ∉ name →
      DottedNames cs names → DottedNames (name ++ '.' :: cs) (name :: names)

/-- A dot cuts the names in front of it from those behind it. -/
theorem segments_append_dot (cs ds : List Char) :
    segments isDot (cs ++ '.' :: ds) = segments isDot cs ++ segments isDot ds := by
  simp only [segments, splitWhere_eq_splitOnP]
  rw [List.splitOnP_append_cons cs ds (by decide), List.filter_append]

theorem segments_dot (cs : List Char) : segments isDot ('.' :: cs) = segments isDot cs :=
  segments_append_dot [] cs

theorem segments_name (hne : name ≠ []) (hdot : '.' ∉ name) : segments isDot name = [name] := by
  have hnone : ∀ c ∈ name, isDot c = false := by
    intro c hc
    exact beq_false_of_ne fun h => hdot (h ▸ hc)
  rw [segments, splitWhere_eq_splitOnP, List.splitOnP_eq_singleton hnone]
  simp [hne]

/-- The names of a text are its segments that are not empty. -/
theorem dottedNames_iff : DottedNames cs names ↔ segments isDot cs = names := by
  constructor
  · intro h
    induction h with
    | empty => rfl
    | dot _ ih => rw [segments_dot, ih]
    | last hne hdot => exact segments_name hne hdot
    | next hne hdot _ ih => rw [segments_append_dot, segments_name hne hdot, ih]; rfl
  · rintro rfl
    -- The induction is on the length, since a step takes a whole name.
    induction hlength : cs.length using Nat.strongRecOn generalizing cs with
    | ind n ih =>
      subst hlength
      by_cases hdot : '.' ∈ cs
      · obtain ⟨name, rest, rfl, hname⟩ := List.eq_append_cons_of_mem hdot
        have hrest : DottedNames rest (segments isDot rest) := ih _ (by simp; omega) rfl
        rw [segments_append_dot]
        by_cases hne : name = []
        · rw [hne]
          exact .dot hrest
        · rw [segments_name hne hname]
          exact .next hne hname hrest
      · by_cases hne : cs = []
        · rw [hne]
          exact .empty
        · rw [segments_name hne hdot]
          exact .last hne hdot

theorem pathOf_eq_of_dottedNames {field : String} (h : DottedNames field.toList names) :
    pathOf field = names.map String.ofList := by
  rw [pathOf, dottedNames_iff.mp h]

theorem pathOf_dotted (f g : String) : pathOf (f ++ "." ++ g) = pathOf f ++ pathOf g := by
  have htext : (f ++ "." ++ g).toList = f.toList ++ '.' :: g.toList := by simp
  rw [pathOf, htext, segments_append_dot, List.map_append]
  rfl

/-! ## Where names lead -/

/-- Names lead from a value to another: each one to the member of that
name, in an object that has it. -/
inductive LeadsTo : Json → List String → Json → Prop
  | here (value : Json) : LeadsTo value [] value
  | member {members : List (String × Json)} {name : String} {names : List String}
      {inner value : Json} : members.lookup name = some inner → LeadsTo inner names value →
      LeadsTo (.object members) (name :: names) value

theorem follow_eq_some_iff {path : List String} :
    record.follow path = some value ↔ LeadsTo record path value := by
  constructor
  · intro h
    induction path generalizing record with
    | nil =>
      cases h
      exact .here _
    | cons name path ih =>
      obtain ⟨inner, hinner, hvalue⟩ := Option.bind_eq_some_iff.mp h
      cases record with
      | object members => exact .member hinner (ih hvalue)
      | _ => cases hinner
  · intro h
    induction h with
    | here value => rfl
    | member hinner _ ih =>
      rw [follow, get?_object, hinner]
      exact ih

/-- A field is resolved to the value that its names lead to. -/
theorem resolve_eq_some_iff {field : String} :
    record.resolve field = some value ↔
      ∃ names, DottedNames field.toList names ∧ LeadsTo record (names.map String.ofList) value := by
  rw [resolve, follow_eq_some_iff]
  constructor
  · intro h
    exact ⟨_, dottedNames_iff.mpr rfl, h⟩
  · rintro ⟨names, hnames, h⟩
    rwa [pathOf_eq_of_dottedNames hnames]

theorem resolve_dotted (record : Json) (f g : String) :
    record.resolve (f ++ "." ++ g) = (record.resolve f).bind fun value => value.resolve g := by
  unfold resolve
  rw [pathOf_dotted, follow_append]

theorem resolve_eq_of_dottedNames {f g : String} (hf : DottedNames f.toList names)
    (hg : DottedNames g.toList names) (record : Json) : record.resolve f = record.resolve g := by
  unfold resolve
  rw [pathOf_eq_of_dottedNames hf, pathOf_eq_of_dottedNames hg]

end Json

namespace FieldRule

variable {options : RuleOptions} {record value : Json} {f g : String}

/-- A rule on a dotted field asks for the second part where the first
part leads. -/
theorem evaluate_dotted (r : FieldRule) (h : record.resolve f = some value) :
    { r with field := f ++ "." ++ g }.evaluate options record =
      { r with field := g }.evaluate options value := by
  have hresolve : record.resolve (f ++ "." ++ g) = value.resolve g := by
    rw [Json.resolve_dotted, h]
    rfl
  unfold evaluate
  dsimp only
  rw [hresolve]
  rfl

theorem evaluate_dotted_of_missing (r : FieldRule) (h : record.resolve f = none) :
    { r with field := f ++ "." ++ g }.evaluate options record =
      .ok (r.family.holdsMissing r.negated (r.context options)) := by
  have hresolve : record.resolve (f ++ "." ++ g) = none := by
    rw [Json.resolve_dotted, h]
    rfl
  unfold evaluate
  dsimp only
  rw [hresolve]
  rfl

/-- Two fields with a dot between them are resolved one after the other,
and what a field is resolved to depends on its names alone.  So a rule on
the two fields, of any operator, type and operands, answers for a record
as the rule on the second one does for what the first one leads to, also
if that lacks the second; if the first one leads nowhere, the answer is
the one for a missing field. -/
theorem dotted_composes :
    (∀ (record : Json) (f g : String),
      record.resolve (f ++ "." ++ g) = (record.resolve f).bind fun value => value.resolve g) ∧
    (∀ (record value : Json) (field : String), record.resolve field = some value ↔
      ∃ names, Json.DottedNames field.toList names ∧
        Json.LeadsTo record (names.map String.ofList) value) ∧
    (∀ (f g : String) (names : List (List Char)), Json.DottedNames f.toList names →
      Json.DottedNames g.toList names → ∀ record : Json, record.resolve f = record.resolve g) ∧
    (∀ (options : RuleOptions) (record value : Json) (f g : String) (r : FieldRule),
      record.resolve f = some value →
      { r with field := f ++ "." ++ g }.evaluate options record =
        { r with field := g }.evaluate options value) ∧
    ∀ (options : RuleOptions) (record : Json) (f g : String) (r : FieldRule),
      record.resolve f = none →
      { r with field := f ++ "." ++ g }.evaluate options record =
        .ok (r.family.holdsMissing r.negated (r.context options)) :=
  ⟨Json.resolve_dotted, fun _ _ _ => Json.resolve_eq_some_iff,
    fun _ _ _ hf hg => Json.resolve_eq_of_dottedNames hf hg,
    fun _ _ _ _ _ r h => r.evaluate_dotted h, fun _ _ _ _ r h => r.evaluate_dotted_of_missing h⟩

/-- A sale with an amount. -/
def saleRecord : Json := .object [("sale", .object [("amount", .string "22")])]

/-- Asks for an amount above twenty. -/
def aboveTwenty : FieldRule :=
  { new "amount" .integer .greater with
    raw := some (.string "20"), operands := [some (.integer 20)] }

/-- Dots too many do not count; the sale has an amount and no tax, and
there is no refund that could have one. -/
theorem dotted_composes_sale :
    (Json.DottedNames "sale..amount.".toList [['s', 'a', 'l', 'e'], ['a', 'm', 'o', 'u', 'n', 't']] ∧
      saleRecord.resolve "sale..amount." = saleRecord.resolve "sale.amount") ∧
    ({ aboveTwenty with field := "sale." ++ "." ++ "amount" }.evaluate {} saleRecord =
        { aboveTwenty with field := "amount" }.evaluate {} (.object [("amount", .string "22")]) ∧
      { aboveTwenty with field := "amount" }.evaluate {} (.object [("amount", .string "22")]) =
        .ok true) ∧
    { aboveTwenty with field := "refund" ++ "." ++ "amount" }.evaluate {} saleRecord =
      .ok (OperatorFamily.greater.holdsMissing false (aboveTwenty.context {})) := by
  obtain ⟨-, -, hnames, hrule, hmissing⟩ := dotted_composes
  have hdots : Json.DottedNames "sale..amount.".toList
      [['s', 'a', 'l', 'e'], ['a', 'm', 'o', 'u', 'n', 't']] :=
    Json.dottedNames_iff.mpr (by decide)
  exact ⟨⟨hdots, hnames _ _ _ hdots (Json.dottedNames_iff.mpr (by decide)) _⟩,
    ⟨hrule {} saleRecord _ "sale." "amount" aboveTwenty rfl, rfl⟩,
    hmissing {} saleRecord "refund" "amount" aboveTwenty rfl⟩

end FieldRule

end RecordSieve
