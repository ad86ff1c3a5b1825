/-
RecordSieve.Proofs.Rule.Defaults — records without a field, and records
that hold its default.

For a record without the field, Equal looks whether its operand is the
default of the type; Is Empty looks whether the data are.  Neither
compares anything, and yet both answer as a comparison with the default
does (`default_agrees`), with one exception: a string of which nothing
counts under the flags is equal to the empty string, and is not the
default.
-/
import RecordSieve.Proofs.Rule.Questions
import RecordSieve.Proofs.Value.Default

namespace RecordSieve

namespace FieldValue

variable {flags : CompareFlags} {v w d : FieldValue}

theorem equal_comm (flags : CompareFlags) (v w : FieldValue) :
    equal flags v w = equal flags w v := by
  rw [equal, equal, order?_swap flags v w]
  rcases order? flags v w with _ | o
  · rfl
  · cases o <;> rfl

/-- A value that is a default is equal to what the default is equal to:
to a default, or a string of which nothing counts. -/
theorem equal_iff_of_isDefault (hd : d.isDefault = true) (hkind : d.kind = v.kind) :
    equal flags d v = true ↔ v.isDefault = true ∨ v.FoldsAway flags := by
  have hdefault : equal flags d (default d.kind) = true := equal_default_iff.mpr (.inl hd)
  rw [equal, order?_congr_left hdefault, ← equal, equal_comm, hkind, equal_default_iff]

end FieldValue

namespace FieldRule

variable {options : RuleOptions} {kind : FieldType} {field : String}
  {record lacking holding token c d : Json} {v cValue dValue : FieldValue}

/-! ## Equal -/

/-- For a record without the field, Equal says whether the operand is the default. -/
theorem ask_equal_missing (hc : coerce options kind c = .ok (some cValue))
    (hlacking : lacking.resolve field = none) :
    ask options lacking field kind .equal c = .ok cValue.isDefault ∧
    ask options lacking field kind .notEqual c = .ok (!cValue.isDefault) := by
  rw [ask_of_missing (operandsOf_scalar hc) hlacking,
    ask_of_missing (operandsOf_scalar hc) hlacking]
  exact ⟨congrArg Except.ok (Bool.bne_false _), congrArg Except.ok (Bool.bne_true _)⟩

/-- A record without the field and one that holds the default answer
alike, unless nothing of the operand counts. -/
theorem exists_ask_lacking_holding (hlacking : lacking.resolve field = none)
    (hholding : holding.resolve field = some token)
    (hd : coerceData options kind token = .ok (some dValue)) (hdefault : dValue.isDefault = true)
    (hc : coerce options kind c = .ok (some cValue)) :
    ∃ missing held : Bool,
      ask options lacking field kind .equal c = .ok missing ∧
      ask options holding field kind .equal c = .ok held ∧
      ask options lacking field kind .notEqual c = .ok (!missing) ∧
      ask options holding field kind .notEqual c = .ok (!held) ∧
      (¬ cValue.FoldsAway options.compare → missing = held) ∧
      (cValue.FoldsAway options.compare → missing = false ∧ held = true) := by
  obtain ⟨hequal, hnotEqual⟩ := ask_equal_missing hc hlacking
  have hheld := ask_equal_of_value hc hholding hd
  have hnotHeld : ask options holding field kind .notEqual c =
      .ok (!dValue.equal options.compare cValue) :=
    (ask_negated (operandsOf_scalar hc) hholding .equal).trans (congrArg (Except.map (!·)) hheld)
  have hkind : dValue.kind = cValue.kind :=
    (kind_of_coerceData hd).trans (kind_of_coerce hc).symm
  refine ⟨_, _, hequal, hheld, hnotEqual, hnotHeld, fun haway => ?_, fun haway => ?_⟩
  · rw [Bool.eq_iff_iff, FieldValue.equal_iff_of_isDefault hdefault hkind, or_iff_left haway]
  · exact ⟨FieldValue.isDefault_eq_false_of_foldsAway haway,
      (FieldValue.equal_iff_of_isDefault hdefault hkind).mpr (.inr haway)⟩

/-! ## Is Empty -/

/-- Data are empty if they are absent or equal to the default, unless
nothing of them counts. -/
theorem askAlone_isEmpty_eq (htoken : record.resolve field = some token)
    (hd : coerce options kind d = .ok (some dValue)) (hdefault : dValue.isDefault = true)
    (haway : ∀ v, coerceData options kind token = .ok (some v) → ¬ v.FoldsAway options.compare) :
    askAlone options record field kind .isEmpty = do
      let absent ← askAlone options record field kind .isNull
      let equal ← ask options record field kind .equal d
      return absent || equal := by
  rw [askAlone_isEmpty htoken, askAlone_isNull htoken, ask_equal (operandsOf_scalar hd) htoken]
  rcases hread : coerceData options kind token with abort | _ | v
  · rfl
  · rfl
  · have hkind : dValue.kind = v.kind := (kind_of_coerce hd).trans (kind_of_coerceData hread).symm
    have hequal : v.isDefault = v.equal options.compare dValue := by
      rw [FieldValue.equal_comm, Bool.eq_iff_iff, FieldValue.equal_iff_of_isDefault hdefault hkind,
        or_iff_left (haway v hread)]
    exact congrArg Except.ok hequal

theorem askAlone_of_foldsAway (htoken : record.resolve field = some token)
    (hd : coerce options kind d = .ok (some dValue)) (hdefault : dValue.isDefault = true)
    (hv : coerceData options kind token = .ok (some v)) (haway : v.FoldsAway options.compare) :
    askAlone options record field kind .isEmpty = .ok false ∧
    askAlone options record field kind .isNull = .ok false ∧
    ask options record field kind .equal d = .ok true := by
  have hkind : dValue.kind = v.kind := (kind_of_coerce hd).trans (kind_of_coerceData hv).symm
  refine ⟨?_, ?_, ?_⟩
  · rw [askAlone_isEmpty htoken, hv]
    exact congrArg Except.ok (FieldValue.isDefault_eq_false_of_foldsAway haway)
  · rw [askAlone_isNull htoken, hv]
    rfl
  · rw [ask_equal_of_value hd htoken hv, FieldValue.equal_comm]
    exact congrArg Except.ok
      ((FieldValue.equal_iff_of_isDefault hdefault hkind).mpr (.inr haway))

/-! ## Defaults -/

/-- U+0301 is a mark and nothing else, so under flags that ignore accents
it is equal to the empty string, and it is not empty. -/
theorem not_isDefault_iff_of_mark : ¬ ∀ (options : RuleOptions) (kind : FieldType) (value : Json)
    (v : FieldValue), coerceData options kind value = .ok (some v) →
      (v.isDefault = true ↔ v.equal options.compare (.default kind) = true) := by
  intro h
  have hmark := h { compare := ⟨false, true⟩ } .string (.string "\u0301") (.string "\u0301") rfl
  exact absurd (hmark.mpr (by decide +kernel)) (by decide +kernel)

/-- Of a value of a type, being the default is being equal to it under
the options, unless the value is a string of which nothing counts: such a
string is equal to the default and is not it.  So Equal and Not Equal
answer a record without the field as they answer one that holds a
default, and data are empty if they are null or equal to a default, with
the same exception; and in every type there are data that are read as the
default. -/
theorem default_agrees (options : RuleOptions) (kind : FieldType) :
    (∀ v : FieldValue, v.kind = kind →
      (¬ v.FoldsAway options.compare →
        (v.isDefault = true ↔ v.equal options.compare (.default kind) = true)) ∧
      (v.FoldsAway options.compare →
        v.isDefault = false ∧ v.equal options.compare (.default kind) = true)) ∧
    (∀ field lacking holding token dValue c cValue, lacking.resolve field = none →
      holding.resolve field = some token → coerceData options kind token = .ok (some dValue) →
      dValue.isDefault = true → coerce options kind c = .ok (some cValue) →
      ∃ missing held : Bool,
        ask options lacking field kind .equal c = .ok missing ∧
        ask options holding field kind .equal c = .ok held ∧
        ask options lacking field kind .notEqual c = .ok (!missing) ∧
        ask options holding field kind .notEqual c = .ok (!held) ∧
        (¬ cValue.FoldsAway options.compare → missing = held) ∧
        (cValue.FoldsAway options.compare → missing = false ∧ held = true)) ∧
    (∀ field record token d dValue, record.resolve field = some token →
      coerce options kind d = .ok (some dValue) → dValue.isDefault = true →
      ((∀ v, coerceData options kind token = .ok (some v) → ¬ v.FoldsAway options.compare) →
        askAlone options record field kind .isEmpty = do
          let absent ← askAlone options record field kind .isNull
          let equal ← ask options record field kind .equal d
          return absent || equal) ∧
      (∀ v, coerceData options kind token = .ok (some v) → v.FoldsAway options.compare →
        askAlone options record field kind .isEmpty = .ok false ∧
        askAlone options record field kind .isNull = .ok false ∧
        ask options record field kind .equal d = .ok true)) ∧
    coerce options kind (.string (FieldValue.default kind).write) =
      .ok (some (FieldValue.default kind)) := by
  refine ⟨?_, ?_, ?_, coerce_write_default options kind⟩
  · rintro v rfl
    refine ⟨fun haway => ?_, fun haway => ?_⟩
    · rw [FieldValue.equal_default_iff, or_iff_left haway]
    · exact ⟨FieldValue.isDefault_eq_false_of_foldsAway haway,
        FieldValue.equal_default_iff.mpr (.inr haway)⟩
  · intro field lacking holding token dValue c cValue hlacking hholding hd hdefault hc
    exact exists_ask_lacking_holding hlacking hholding hd hdefault hc
  · intro field record token d dValue htoken hd hdefault
    exact ⟨askAlone_isEmpty_eq htoken hd hdefault,
      fun v => askAlone_of_foldsAway htoken hd hdefault⟩

/-- The name is missing, empty, or a lone accent, with accents ignored. -/
theorem default_agrees_name :
    (∃ missing : Bool,
      ask { compare := ⟨false, true⟩ } (.ofMembers []) "name" .string .equal (.string "e\u0301") =
        .ok missing ∧
      ask { compare := ⟨false, true⟩ } (.ofMembers [("name", .string "")]) "name" .string .equal
        (.string "e\u0301") = .ok missing) ∧
    askAlone { compare := ⟨false, true⟩ } (.ofMembers [("name", .string "\u0301")]) "name" .string
      .isEmpty = .ok false ∧
    ask { compare := ⟨false, true⟩ } (.ofMembers [("name", .string "\u0301")]) "name" .string
      .equal (.string "") = .ok true := by
  obtain ⟨-, hmissing, hempty, -⟩ := default_agrees { compare := ⟨false, true⟩ } .string
  constructor
  · obtain ⟨missing, held, hlacking, hholding, -, -, heq, -⟩ :=
      hmissing "name" (.ofMembers []) (.ofMembers [("name", .string "")]) (.string "")
        (.string "") (.string "e\u0301") (.string "e\u0301") rfl rfl rfl (by decide +kernel) rfl
    have haway : ¬ (FieldValue.string "e\u0301").FoldsAway ⟨false, true⟩ := by
      rintro ⟨s, hs, h⟩
      cases hs
      exact absurd h (by decide +kernel)
    exact ⟨missing, hlacking, heq haway ▸ hholding⟩
  · have haway : (FieldValue.string "\u0301").FoldsAway ⟨false, true⟩ :=
      ⟨"\u0301", rfl, by decide +kernel⟩
    obtain ⟨-, hfolded⟩ := hempty "name" (.ofMembers [("name", .string "\u0301")])
      (.string "\u0301") (.string "") (.string "") rfl rfl (by decide +kernel)
    obtain ⟨hisEmpty, -, hequal⟩ := hfolded (.string "\u0301") rfl haway
    exact ⟨hisEmpty, hequal⟩

end FieldRule

end RecordSieve
