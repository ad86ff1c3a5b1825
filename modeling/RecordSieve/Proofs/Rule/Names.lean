/-
RecordSieve.Proofs.Rule.Names — what is named by a text.

Names are looked up in lists, and the first hit counts.  No two members
of a list have one name up to the case of ASCII letters, so the order of
the lists does not matter: a text names a member exactly when it is that
member's name in some case, or for an operator has the letters of it.
-/
import RecordSieve.Connective
import RecordSieve.FieldType
import RecordSieve.Operator

namespace RecordSieve

/-- A search finds the one member that passes. -/
theorem find?_eq_some_iff_of_unique {α : Type} {p : α → Bool} {items : List α} {a : α}
    (hmem : a ∈ items) (hunique : ∀ b ∈ items, p b = true → p a = true → b = a) :
    items.find? p = some a ↔ p a = true := by
  refine ⟨List.find?_some, fun ha => ?_⟩
  cases hfound : items.find? p with
  | none => exact absurd ha (List.find?_eq_none.mp hfound a hmem)
  | some b =>
    rw [hunique b (List.mem_of_find?_eq_some hfound) (List.find?_some hfound) ha]

theorem Text.sameName_iff {a b : String} :
    sameName a b = true ↔ lowerAscii a.toList = lowerAscii b.toList := beq_iff_eq

open Text

theorem Connective.ofName?_eq_some_iff {text : String} {connective : Connective} :
    ofName? text = some connective ↔ sameName text connective.name = true := by
  have hand : lowerAscii "and".toList = lowerAscii "AND".toList := by decide
  have hor : lowerAscii "or".toList = lowerAscii "OR".toList := by decide
  have hdistinct : lowerAscii "AND".toList ≠ lowerAscii "OR".toList := by decide
  unfold ofName?
  simp only [sameName_iff, hand, hor]
  cases connective with
  | and => simp [name]
  | or =>
    split
    · next h => exact ⟨nofun, fun h' => absurd (h.symm.trans h') hdistinct⟩
    · simp [name]

theorem FieldType.ofName?_eq_some_iff {text : String} {kind : FieldType} :
    ofName? text = some kind ↔ sameName kind.name text = true := by
  have hnames : ∀ t ∈ all, ∀ u ∈ all, lowerAscii t.name.toList = lowerAscii u.name.toList →
      t = u := by decide
  refine find?_eq_some_iff_of_unique (mem_all kind) fun t ht htext hkind => ?_
  rw [sameName_iff] at htext hkind
  exact hnames t ht kind (mem_all kind) (htext.trans hkind.symm)

/-- The text spells the operator: its ASCII letters, in any case, are
those of the name. -/
def Operator.Spells (text : String) (op : Operator) : Prop :=
  lettersOf text = lowerAscii op.name.toList

theorem Operator.ofName?_eq_some_iff {text : String} {op : Operator} :
    ofName? text = some op ↔ Spells text op := by
  have hnames : ∀ a ∈ all, ∀ b ∈ all, lowerAscii a.name.toList = lowerAscii b.name.toList →
      a = b := by decide +kernel
  rw [ofName?, find?_eq_some_iff_of_unique (mem_all op), beq_iff_eq, Spells, eq_comm]
  intro a ha htext hop
  exact hnames a ha op (mem_all op) ((eq_of_beq htext).trans (eq_of_beq hop).symm)

end RecordSieve
