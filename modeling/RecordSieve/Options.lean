/-
RecordSieve.Options — the options under which rules are read and
evaluated: a locale and two flags for comparing strings.

Options have a JSON form: an object whose unknown keys are ignored, or
an array of the fields in order.  Absent fields take their defaults; a
field of another shape is refused.
-/
import RecordSieve.Json.Basic
import RecordSieve.Locale

namespace RecordSieve

/-- What does not count when strings are compared. -/
structure CompareFlags where
  ignoreCase : Bool := false
  ignoreAccents : Bool := false
  deriving DecidableEq, Repr

/-- The options of a rule. -/
structure RuleOptions where
  locale : Locale := .invariant
  compare : CompareFlags := {}
  deriving DecidableEq

namespace CompareFlags

/-- Reads one flag; an absent one is off. -/
def flagOf? : Option Json → Option Bool
  | none => some false
  | some (.bool b) => some b
  | some _ => none

/-- The flags of their JSON form. -/
def ofJson? : Json → Option CompareFlags
  | value@(.object _) => do
    return ⟨← flagOf? (value.get? "ignore_case"), ← flagOf? (value.get? "ignore_accents")⟩
  | .array items =>
    if items.length ≤ 2 then do return ⟨← flagOf? items[0]?, ← flagOf? items[1]?⟩ else none
  | _ => none

/-- The flags as a JSON object. -/
def toJson (flags : CompareFlags) : Json :=
  .ofMembers [("ignore_case", .bool flags.ignoreCase), ("ignore_accents", .bool flags.ignoreAccents)]

end CompareFlags

namespace RuleOptions

/-- Reads the locale; an absent one is the invariant locale. -/
def localeOf? : Option Json → Option Locale
  | none => some .invariant
  | some (.string tag) => some (.ofTag tag)
  | some _ => none

/-- Reads the comparison flags; absent ones are off. -/
def compareOf? : Option Json → Option CompareFlags
  | none => some {}
  | some value => CompareFlags.ofJson? value

/-- The options of their JSON form. -/
def ofJson? : Json → Option RuleOptions
  | value@(.object _) => do
    return ⟨← localeOf? (value.get? "locale"), ← compareOf? (value.get? "compare")⟩
  | .array items =>
    if items.length ≤ 2 then do return ⟨← localeOf? items[0]?, ← compareOf? items[1]?⟩ else none
  | _ => none

/-- The options as a JSON object. -/
def toJson (options : RuleOptions) : Json :=
  .ofMembers [("locale", .string options.locale.tag), ("compare", options.compare.toJson)]

/-- The same options in another locale. -/
def withLocale (options : RuleOptions) (tag : String) : RuleOptions :=
  { options with locale := .ofTag tag }

/-- The same options with other comparison flags. -/
def withCompare (options : RuleOptions) (flags : CompareFlags) : RuleOptions :=
  { options with compare := flags }

/-- The same options with case ignored. -/
def ignoringCase (options : RuleOptions) : RuleOptions :=
  { options with compare.ignoreCase := true }

/-- The same options with accents ignored. -/
def ignoringAccents (options : RuleOptions) : RuleOptions :=
  { options with compare.ignoreAccents := true }

end RuleOptions

end RecordSieve
