/-
RecordSieve.Proofs.Settings.Layering — where each setting of the program
comes from.

There are six leaves (`Leaf`), each read from the tree that the sources
make when they are laid over each other.  From the highest to the lowest
the sources are the environment variables, the file named on the command
line, the file of the environment's name, `default.toml`, and the name
of the environment.  A leaf has the value of the highest source that
gives it one, and its default if none does (`Leaf.Decided`), as long as
sections stay tables.  A value in the place of a section around a leaf
takes away what the sources below it give the leaf, even if a source
above it makes the section a table again; so it is not enough to ask
which sources give the leaf.

A section can also be a list, which has the leaves in the order of their
names.  Its items may come from several sources, as a subscript in a key
goes on from the list below (`Layered.lists`).
-/
import RecordSieve.Proofs.Settings.Overlay
import RecordSieve.Settings.Basic

namespace RecordSieve

/-! ## Leaves -/

/-- The settings that are read from sources. -/
inductive Leaf where
  | environment
  | locale
  | ignoreCase
  | ignoreAccents
  | logLevel
  | logFormat
  deriving DecidableEq, Repr

/-- What a setting is read as. -/
inductive Reading where
  | text (s : String)
  | locale (l : Locale)
  | truth (b : Bool)
  deriving DecidableEq

/-- A step into a group of settings: the names of its fields, in order,
and the name of the field to go to. -/
abbrev GroupStep := List String × String

namespace Leaf

/-- The steps from the whole tree to a leaf. -/
def steps : Leaf → List GroupStep
  | environment => [root "environment"]
  | locale => [root "options", options "locale"]
  | ignoreCase => [root "options", options "compare", flags "ignore_case"]
  | ignoreAccents => [root "options", options "compare", flags "ignore_accents"]
  | logLevel => [root "observability", log "log_level"]
  | logFormat => [root "observability", log "log_format"]
where
  root (name : String) : GroupStep := (["environment", "options", "observability"], name)
  options (name : String) : GroupStep := (["locale", "compare"], name)
  flags (name : String) : GroupStep := (["ignore_case", "ignore_accents"], name)
  log (name : String) : GroupStep := (["log_level", "log_format"], name)

/-- The path of a leaf. -/
def path (leaf : Leaf) : List String := leaf.steps.map Prod.snd

/-- Reads the setting of a leaf. -/
def read? : Leaf → Setting → Option Reading
  | environment, s | logLevel, s | logFormat, s => s.asText?.map .text
  | locale, s => s.asText?.map fun tag => .locale (.ofTag tag)
  | ignoreCase, s | ignoreAccents, s => s.asBool?.map .truth

end Leaf

/-- What the settings have for a leaf. -/
def Settings.get (settings : Settings) : Leaf → Reading
  | .environment => .text settings.environment
  | .locale => .locale settings.options.locale
  | .ignoreCase => .truth settings.options.compare.ignoreCase
  | .ignoreAccents => .truth settings.options.compare.ignoreAccents
  | .logLevel => .text settings.log.level
  | .logFormat => .text settings.log.format

namespace Leaf

/-- What a leaf is without any source. -/
def builtIn (leaf : Leaf) : Reading := ({} : Settings).get leaf

/-- Reads a leaf where it may be absent. -/
def readOr? (leaf : Leaf) (found : Option Setting) : Option Reading :=
  found.elim (some leaf.builtIn) leaf.read?

end Leaf

/-- The setting to which steps lead: a group is a table or else a list,
whose items stand in the order of the names. -/
def Setting.find? (s : Setting) : List GroupStep → Option Setting
  | [] => some s
  | (names, name) :: steps =>
    (s.fields? names).bind fun fields => (fields.lookup name).bind fun inner => inner.find? steps

namespace Setting

end Setting

namespace Settings

open Leaf.steps

section Field

variable {α : Type} {read : Setting → Option α} {absent found : α} {names : List String}
  {name : String} {s : Setting} {fields : List (String × Setting)}

end Field

end Settings

/-! ## Where a leaf comes from -/

open Setting (EmptyTables)

variable {empties : EmptyTables}

/-- Layers, the highest first, make a list of a section around the leaf. -/
def Leaf.InList (empties : EmptyTables) (leaf : Leaf) (layers : List Layer) : Prop :=
  ∃ front rest items, leaf.steps = front ++ rest ∧ front ≠ [] ∧
    Layer.Lists empties layers (front.map Prod.snd) items

/-- What a leaf is read as follows from the layers, the highest first. -/
structure Leaf.Decided (empties : EmptyTables) (leaf : Leaf) (layers : List Layer)
    (reading : Reading) : Prop where
  /-- The leaf is read from what prevails at its path. -/
  given : ∀ v, Layer.Prevails empties layers leaf.path v → leaf.read? v = some reading
  /-- If a section is a list, the leaf is read from its item, or has its
  default if there is none. -/
  listed : ∀ front rest items, leaf.steps = front ++ rest → front ≠ [] →
    Layer.Lists empties layers (front.map Prod.snd) items →
    leaf.readOr? ((Setting.list items).find? rest) = some reading
  /-- Otherwise the leaf has its default. -/
  absent : (∀ v, ¬ Layer.Prevails empties layers leaf.path v) → ¬ leaf.InList empties layers →
    reading = leaf.builtIn

namespace Leaf

variable {leaf : Leaf} {layers layers' : List Layer} {reading reading' : Reading}

/-- Layers decide a leaf alike if the same prevails in them, and they make
the same lists. -/
theorem Decided.eq (h : leaf.Decided empties layers reading)
    (h' : leaf.Decided empties layers' reading')
    (hgiven : ∀ v, Layer.Prevails empties layers leaf.path v ↔
      Layer.Prevails empties layers' leaf.path v)
    (hlisted : ∀ front rest items, leaf.steps = front ++ rest → front ≠ [] →
      (Layer.Lists empties layers (front.map Prod.snd) items ↔
        Layer.Lists empties layers' (front.map Prod.snd) items)) : reading = reading' := by
  by_cases hv : ∃ v, Layer.Prevails empties layers leaf.path v
  · obtain ⟨v, hv⟩ := hv
    exact Option.some.inj ((h.given v hv).symm.trans (h'.given v ((hgiven v).mp hv)))
  · by_cases hlist : leaf.InList empties layers
    · obtain ⟨front, rest, items, hsteps, hfront, hlist⟩ := hlist
      have hlist' := (hlisted front rest items hsteps hfront).mp hlist
      exact Option.some.inj ((h.listed front rest items hsteps hfront hlist).symm.trans
        (h'.listed front rest items hsteps hfront hlist'))
    · have hv' (v : Setting) : ¬ Layer.Prevails empties layers' leaf.path v :=
        fun hp => hv ⟨v, (hgiven v).mpr hp⟩
      have hlist' : ¬ leaf.InList empties layers' := by
        intro h
        obtain ⟨front, rest, items, hsteps, hfront, hp⟩ := h
        exact hlist ⟨front, rest, items, hsteps, hfront,
          (hlisted front rest items hsteps hfront).mpr hp⟩
      rw [h.absent (fun v hp => hv ⟨v, hp⟩) hlist, h'.absent hv' hlist']

end Leaf

namespace Settings

end Settings

end RecordSieve
