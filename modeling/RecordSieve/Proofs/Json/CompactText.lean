/-
RecordSieve.Proofs.Json.CompactText — a value takes one line.

Compact text has no control characters below U+0020
(`controlFree_compact`): between strings none are written, and inside
strings they are escaped.  So neither a line feed nor a carriage return is
in it, and records that are written one to a line are on as many lines
(`lines_write`).
-/
import RecordSieve.Proofs.Value.Figures
import RecordSieve.RecordText

namespace RecordSieve

namespace Text

/-- The text has no control character below U+0020. -/
def ControlFree (cs : List Char) : Prop := ∀ c ∈ cs, 0x20 ≤ c.toNat

instance (cs : List Char) : Decidable (ControlFree cs) := List.decidableBAll _ _

variable {c : Char} {cs ds : List Char}

@[simp] theorem controlFree_nil : ControlFree [] := nofun

@[simp] theorem controlFree_cons : ControlFree (c :: cs) ↔ 0x20 ≤ c.toNat ∧ ControlFree cs :=
  List.forall_mem_cons

@[simp] theorem controlFree_append : ControlFree (cs ++ ds) ↔ ControlFree cs ∧ ControlFree ds :=
  List.forall_mem_append

theorem ControlFree.subset (h : ControlFree ds) (hcs : cs ⊆ ds) : ControlFree cs :=
  fun c hc => h c (hcs hc)

theorem ControlFree.not_mem (h : ControlFree cs) (hc : c.toNat < 0x20) : c ∉ cs :=
  fun hmem => Nat.not_le.mpr hc (h c hmem)

theorem controlFree_figures : ControlFree figures := by decide

end Text

open Text

namespace Json

/-! ## Strings -/

theorem le_toNat_hexChar {n : Nat} (h : n < 16) : 0x20 ≤ (hexChar n).toNat := by
  have hall : ∀ n < 16, 0x20 ≤ (hexChar n).toNat := by decide
  exact hall n h

theorem controlFree_escapeChar (c : Char) : ControlFree (escapeChar c) := by
  unfold escapeChar
  split
  case h_8 =>
    split
    · next h =>
      have hhigh : c.toNat / 16 < 16 := by omega
      simp [le_toNat_hexChar hhigh, le_toNat_hexChar (Nat.mod_lt _ (by decide : 0 < 16))]
    · next h => simp [Nat.not_lt.mp h]
  all_goals decide

theorem controlFree_quote (s : String) : ControlFree (quote s) := by
  have hbody : ControlFree (s.toList.flatMap escapeChar) := by
    intro c hc
    obtain ⟨d, -, hc⟩ := List.mem_flatMap.mp hc
    exact controlFree_escapeChar d c hc
  simp [quote, hbody]

/-! ## Values -/

theorem controlFree_write (n : JsonNumber) : ControlFree n.write := by
  refine controlFree_figures.subset ?_
  cases n with
  | integer i h => exact Decimal.ofInt_subset i
  | double x => exact Decimal.Layout.write_subset _ x

mutual

theorem controlFree_compact : ∀ value : Json, ControlFree value.compact
  | null => by decide
  | bool true => by decide
  | bool false => by decide
  | number n => controlFree_write n
  | string s => controlFree_quote s
  | array [] => by decide
  | array (item :: items) => by
    simp [compact, controlFree_compact item, controlFree_compactItems items]
  | object [] => by decide
  | object ((key, value) :: members) => by
    simp [compact, controlFree_quote key, controlFree_compact value,
      controlFree_compactMembers members]

theorem controlFree_compactItems : ∀ items : List Json, ControlFree (compactItems items)
  | [] => by decide
  | item :: items => by
    simp [compactItems, controlFree_compact item, controlFree_compactItems items]

theorem controlFree_compactMembers :
    ∀ members : List (String × Json), ControlFree (compactMembers members)
  | [] => by decide
  | (key, value) :: members => by
    simp [compactMembers, controlFree_quote key, controlFree_compact value,
      controlFree_compactMembers members]

end

end Json

/-! ## Lines -/

namespace RecordText

theorem write_cons (record : Json) (records : List Json) :
    write (record :: records) = String.ofList (writeLine record) ++ write records := by
  simp [write, ← String.ofList_append]

theorem lines_write (records : List Json) :
    lines (write records).toList = records.map Json.compact := by
  rw [write, String.toList_ofList]
  induction records with
  | nil => rfl
  | cons record records ih =>
    have hrecord := Json.controlFree_compact record
    rw [List.flatMap_cons, writeLine, List.append_assoc, List.singleton_append,
      lines_append_newline (hrecord.not_mem (by decide)) (hrecord.not_mem (by decide)), ih,
      List.map_cons]

end RecordText

end RecordSieve
