/-
RecordSieve.Settings.Setting — trees of settings and how one is laid
over another.

A setting is a value or a table of named settings.  Laying a table over
a setting merges it entry by entry; laying a value over a setting
replaces it.  So of several sources the last that gives a leaf a value
decides that leaf, and leaves it does not mention keep theirs.  A table
with entries also takes the place of a value; for a table without any
both is possible (`EmptyTables`).

A setting can also be laid over the one at a place inside a tree (`set`),
to which names lead and subscripts, the positions of items in lists.  On
the way what is no table becomes one where a name goes on, and what is no
list becomes one where a subscript does.

Settings come from typed and from untyped sources, so a setting is read
leniently: a number serves as a text or a truth value, and some words
serve as truth values.
-/
import RecordSieve.Decimal.Layout
import RecordSieve.Decimal.Literal

namespace RecordSieve

/-- A setting: a value or a table of settings. -/
inductive Setting where
  /-- The setting that holds nothing. -/
  | nil
  | boolean (value : Bool)
  | integer (value : Int)
  | decimal (value : Decimal.LiteralValue)
  | text (value : String)
  | list (items : List Setting)
  | table (entries : List (String × Setting))

namespace Setting

instance : Inhabited Setting := ⟨table []⟩

/-- The table without entries. -/
def empty : Setting := table []

/-- The entries of a table; a value has none. -/
def entries : Setting → List (String × Setting)
  | table entries => entries
  | _ => []

/-- The items of a list; anything else has none. -/
def items : Setting → List Setting
  | list items => items
  | _ => []

/-- Sets an entry, in the place of an earlier one of the same name. -/
def put (key : String) (value : Setting) : List (String × Setting) → List (String × Setting)
  | [] => [(key, value)]
  | (k, v) :: rest => if k == key then (key, value) :: rest else (k, v) :: put key value rest

/-- What a table without entries does to a value that it is laid over. -/
inductive EmptyTables where
  /-- It takes the place of the value. -/
  | replace
  /-- It leaves the value as it is. -/
  | yield
  deriving DecidableEq, Repr

/-- Whether the setting stays when a table without entries is laid over it. -/
def outlasts : EmptyTables → Setting → Bool
  | .replace, _ => false
  | .yield, nil => false
  | .yield, _ => true

mutual

/-- The setting `old` with another laid over it. -/
def overlay (empties : EmptyTables) (old : Setting) : Setting → Setting
  | table entries =>
    if entries.isEmpty && old.outlasts empties then old
    else table (overlayEntries empties old.entries entries)
  | value => value

/-- The entries `old` with others laid over them, one after the other. -/
def overlayEntries (empties : EmptyTables) (old : List (String × Setting)) :
    List (String × Setting) → List (String × Setting)
  | [] => old
  | (key, value) :: rest =>
    let inner := overlay empties ((old.lookup key).getD empty) value
    overlayEntries empties (put key inner old) rest

end

/-- A step into a setting: the name of an entry, or a subscript. -/
inductive Step where
  | name (key : String)
  | item (subscript : Int)
  deriving DecidableEq, Repr

/-- Changes the item for a subscript.  The subscript of the first item is 0,
that of the last one is also -1.  Where the list does not reach that far
it is extended by settings that hold nothing, at the end or in front. -/
def changeItem (subscript : Int) (f : Setting → Setting) (items : List Setting) : List Setting :=
  if 0 ≤ subscript then
    let place := subscript.toNat
    (items ++ List.replicate (place + 1 - items.length) nil).modify place f
  else
    let fromEnd := subscript.natAbs
    if fromEnd ≤ items.length then items.modify (items.length - fromEnd) f
    else (List.replicate (fromEnd - items.length) nil ++ items).modify 0 f

/-- The setting `old` with another laid over what is at the place to which
steps lead. -/
def set (empties : EmptyTables) (old new : Setting) : List Step → Setting
  | [] => old.overlay empties new
  | .name key :: steps =>
    let inner := ((old.entries.lookup key).getD empty).set empties new steps
    table (put key inner old.entries)
  | .item subscript :: steps =>
    list (changeItem subscript (fun item => item.set empties new steps) old.items)

/-- The setting that a path of names leads to. -/
def at? (s : Setting) : List String → Option Setting
  | [] => some s
  | key :: path => (s.entries.lookup key).bind fun inner => inner.at? path

/-- The setting as a text; nothing, tables and lists have none. -/
def asText? : Setting → Option String
  | text s => some s
  | boolean b => some (if b then "true" else "false")
  | integer i => some (Decimal.intText i)
  | decimal (.finite x) => some (String.ofList (Decimal.Layout.plain.write x))
  | decimal (.infinite negative) => some (if negative then "-inf" else "inf")
  | decimal .notANumber => some "NaN"
  | nil | list _ | table _ => none

/-- The words for true and for false, which may be written in any case. -/
def trueWords : List String := ["1", "true", "on", "yes"]
def falseWords : List String := ["0", "false", "off", "no"]

/-- The setting as a truth value: a number is true unless it is zero. -/
def asBool? : Setting → Option Bool
  | boolean b => some b
  | integer i => some (i != 0)
  | decimal (.finite x) => some !x.isZero
  | decimal _ => some true
  | text s =>
    if trueWords.any (Text.sameName s) then some true
    else if falseWords.any (Text.sameName s) then some false
    else none
  | nil | list _ | table _ => none

/-- The named fields of a group of settings: the entries of a table, or
the items of a list, which stand in the order of the names. -/
def fields? (names : List String) : Setting → Option (List (String × Setting))
  | table entries => some entries
  | list items => some (names.zip items)
  | _ => none

@[simp] theorem entries_table (es : List (String × Setting)) : (table es).entries = es := rfl

theorem lookup_put_self (key : String) (value : Setting) (es : List (String × Setting)) :
    (put key value es).lookup key = some value := by
  induction es with
  | nil => simp [put]
  | cons entry es ih =>
    obtain ⟨k, v⟩ := entry
    rw [put]
    by_cases h : k = key
    · simp [h]
    · simp [h, List.lookup_cons, beq_false_of_ne (Ne.symm h), ih]

theorem lookup_put_of_ne {key other : String} (h : other ≠ key) (value : Setting)
    (es : List (String × Setting)) : (put key value es).lookup other = es.lookup other := by
  induction es with
  | nil => simp [put, List.lookup_cons, beq_false_of_ne h]
  | cons entry es ih =>
    obtain ⟨k, v⟩ := entry
    rw [put]
    by_cases hk : k = key
    · simp [hk, List.lookup_cons, beq_false_of_ne h]
    · simp [hk, List.lookup_cons, ih]

end Setting

end RecordSieve
