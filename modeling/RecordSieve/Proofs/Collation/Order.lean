/-
RecordSieve.Proofs.Collation.Order — the order of strings is a total
preorder.

The four levels of the order look at four keys of a string, and a level
that the flags leave out is one whose key is the same for all strings
(`accentLevel`, `caseLevel`, `textLevel`).  Said in this way the order is
the lexicographic order of the keys (`order_eq_compareLex`), at whatever
level two strings come apart, and the laws of an order are those of lists.

Canonically equivalent strings have the same keys.  Without flags the
last key is the decomposition itself, so no other strings are equal.
-/
import RecordSieve.Proofs.Collation.Congruence

namespace RecordSieve.Collation

open Text

variable {flags : CompareFlags} {a a' b b' c : String}

/-! ## Levels -/

/-- The key of the second level; the same for all strings if accents are ignored. -/
def accentLevel (flags : CompareFlags) (a : String) : List Char :=
  if flags.ignoreAccents then [] else accentKey a

/-- The key of the third level; the same for all strings if case is ignored. -/
def caseLevel (flags : CompareFlags) (a : String) : List Bool :=
  if flags.ignoreCase then [] else caseKey flags a

/-- The key of the last level; the same for all strings under any flag. -/
def textLevel (flags : CompareFlags) (a : String) : List Char :=
  if flags = {} then decompose a.toList else []

theorem order_eq_compareLex (flags : CompareFlags) : order flags =
    compareLex (compareOn letterKey) (compareLex (compareOn (accentLevel flags))
      (compareLex (compareOn (caseLevel flags)) (compareOn (textLevel flags)))) := by
  funext a b
  have haccents : compareOn (accentLevel flags) a b =
      if flags.ignoreAccents then .eq else compare (accentKey a) (accentKey b) := by
    rw [compareOn, accentLevel, accentLevel]
    split <;> simp
  have hcase : compareOn (caseLevel flags) a b =
      if flags.ignoreCase then .eq else compare (caseKey flags a) (caseKey flags b) := by
    rw [compareOn, caseLevel, caseLevel]
    split <;> simp
  have htext : compareOn (textLevel flags) a b =
      if flags = {} then compare (decompose a.toList) (decompose b.toList) else .eq := by
    rw [compareOn, textLevel, textLevel]
    split <;> simp
  simp only [compareLex, haccents, hcase, htext]
  rfl

/-- Keys are lists, and lists are in lexicographic order. -/
instance (flags : CompareFlags) : Std.TransCmp (order flags) := by
  rw [order_eq_compareLex]
  infer_instance

/-! ## Equality -/

theorem equal_refl (flags : CompareFlags) (a : String) : equal flags a a = true :=
  equal_eq_true_iff.mpr Std.ReflCmp.compare_self

theorem equal_symm (h : equal flags a b = true) : equal flags b a = true := by
  rw [equal_eq_true_iff] at h ⊢
  exact Std.OrientedCmp.eq_symm h

theorem equal_trans (hab : equal flags a b = true) (hbc : equal flags b c = true) :
    equal flags a c = true := by
  rw [equal_eq_true_iff] at hab hbc ⊢
  exact Std.TransCmp.eq_trans hab hbc

/-- Equal strings may be put for each other on both sides. -/
theorem order_congr (ha : equal flags a a' = true) (hb : equal flags b b' = true) :
    order flags a b = order flags a' b' := by
  rw [equal_eq_true_iff] at ha hb
  calc order flags a b = order flags a' b := Std.TransCmp.congr_left ha
    _ = order flags a' b' := Std.TransCmp.congr_right hb

/-! ## Canonical equivalence -/

/-- Two strings have one canonical decomposition. -/
def CanonicallyEquivalent (a b : String) : Prop := decompose a.toList = decompose b.toList

instance (a b : String) : Decidable (CanonicallyEquivalent a b) :=
  inferInstanceAs (Decidable (_ = _))

/-- The keys of a string are read off its decomposition. -/
theorem equal_of_canonicallyEquivalent (h : CanonicallyEquivalent a b) :
    equal flags a b = true := by
  rw [CanonicallyEquivalent] at h
  refine equal_iff.mpr ⟨?_, fun _ => ?_, fun _ => ?_, fun _ => h⟩
  · rw [letterKey, letterKey, h]
  · rw [accentKey, accentKey, h]
  · rw [caseKey, caseKey, h]

theorem equal_noFlags_iff : equal {} a b = true ↔ CanonicallyEquivalent a b := by
  constructor
  · intro h
    obtain ⟨-, -, -, htext⟩ := equal_iff.mp h
    exact htext rfl
  · exact equal_of_canonicallyEquivalent

/-! ## The order -/

/-- Under all flags the order of strings is a total preorder.  Its
equality is an equivalence that the order respects and that holds of
canonically equivalent strings, and without flags of no others. -/
theorem order_totalPreorder (flags : CompareFlags) :
    (∀ a b, order flags b a = (order flags a b).swap) ∧
    (∀ a b c, (order flags a b).isLE = true → (order flags b c).isLE = true →
      (order flags a c).isLE = true) ∧
    Equivalence (fun a b => equal flags a b = true) ∧
    (∀ a a' b b', equal flags a a' = true → equal flags b b' = true →
      order flags a b = order flags a' b') ∧
    (∀ a b, CanonicallyEquivalent a b → equal flags a b = true) ∧
    (∀ a b, equal {} a b = true ↔ CanonicallyEquivalent a b) := by
  refine ⟨fun a b => Std.OrientedCmp.eq_swap, fun a b c => Std.TransCmp.isLE_trans,
    ⟨equal_refl flags, equal_symm, equal_trans⟩, fun a a' b b' => order_congr,
    fun a b => equal_of_canonicallyEquivalent, fun a b => equal_noFlags_iff⟩

/-- A word without its accent comes before the word with it, in either
form, and so before a word that goes on with the next letter. -/
theorem order_totalPreorder_accents :
    CanonicallyEquivalent "caf\u00E9" "cafe\u0301" ∧
      equal {} "caf\u00E9" "cafe\u0301" = true ∧
      order {} "cafe" "caf\u00E9" = order {} "cafe" "cafe\u0301" ∧
      (order {} "cafe" "CAFF").isLE = true := by
  obtain ⟨-, htrans, -, hcongr, hequivalent, -⟩ := order_totalPreorder {}
  have h : CanonicallyEquivalent "caf\u00E9" "cafe\u0301" := by decide +kernel
  have hequal : equal {} "caf\u00E9" "cafe\u0301" = true := hequivalent _ _ h
  exact ⟨h, hequal, hcongr _ _ _ _ (by decide +kernel) hequal,
    htrans "cafe" "caf\u00E9" "CAFF" (by decide +kernel) (by decide +kernel)⟩

end RecordSieve.Collation
