/-
RecordSieve.Proofs.Text.Letter — the ASCII letters, and texts that differ
in their case.

A letter has a place in the alphabet and stands there in two cases.
`SameButCase` says of two characters that they are equal, or one letter in
either case; that comes to having the same small letter.  Texts that are
alike in this way, character by character, are those that are equal when
case is ignored (`equalIgnoringCase_iff`).  They have the same capitals,
and take equally many bytes, since all ASCII letters take one.
-/
import Mathlib.Data.List.Forall2
import RecordSieve.Proofs.Text.Size
import RecordSieve.Text.Ascii

namespace RecordSieve.Text

/-! ## Letters -/

/-- The character is the letter at a place of the alphabet, counted from
zero, in either case. -/
def LetterAt (i : Nat) (c : Char) : Prop :=
  i < 26 ∧ (c.toNat = 'A'.toNat + i ∨ c.toNat = 'a'.toNat + i)

/-- The character is an ASCII letter. -/
def IsLetter (c : Char) : Prop := ∃ i, LetterAt i c

/-- The characters are one ASCII letter, each in either case. -/
def SameLetter (c d : Char) : Prop := ∃ i, LetterAt i c ∧ LetterAt i d

variable {c d : Char} {i : Nat}

theorem isAlpha_iff : c.isAlpha = true ↔ IsLetter c := by
  have hcases : c.isAlpha = true ↔ 65 ≤ c.toNat ∧ c.toNat ≤ 90 ∨ 97 ≤ c.toNat ∧ c.toNat ≤ 122 := by
    show (decide (c.val ≥ 65 ∧ c.val ≤ 90) || decide (c.val ≥ 97) && decide (c.val ≤ 122)) = true ↔ _
    simp only [Bool.or_eq_true, Bool.and_eq_true, decide_eq_true_eq, UInt32.le_iff_toNat_le,
      ge_iff_le]
    exact Iff.rfl
  have hA : 'A'.toNat = 65 := rfl
  have ha : 'a'.toNat = 97 := rfl
  rw [hcases, IsLetter]
  constructor
  · rintro (h | h)
    · exact ⟨c.toNat - 65, by omega, by omega⟩
    · exact ⟨c.toNat - 97, by omega, by omega⟩
  · rintro ⟨i, hi, h⟩
    omega

instance (i : Nat) (c : Char) : Decidable (LetterAt i c) :=
  inferInstanceAs (Decidable (_ ∧ (_ ∨ _)))

instance (c : Char) : Decidable (IsLetter c) := decidable_of_iff _ isAlpha_iff

theorem LetterAt.eq_ofNat (h : LetterAt i c) :
    c = Char.ofNat ('A'.toNat + i) ∨ c = Char.ofNat ('a'.toNat + i) := by
  rw [← Char.ofNat_toNat c]
  exact h.2.imp (congrArg Char.ofNat) (congrArg Char.ofNat)

/-- The small letter at a place of the alphabet. -/
theorem toLower_of_letterAt (h : LetterAt i c) : c.toLower = Char.ofNat ('a'.toNat + i) := by
  have hletters : ∀ i < 26, (Char.ofNat ('A'.toNat + i)).toLower = Char.ofNat ('a'.toNat + i) ∧
      (Char.ofNat ('a'.toNat + i)).toLower = Char.ofNat ('a'.toNat + i) := by decide
  obtain rfl | rfl := h.eq_ofNat
  · exact (hletters i h.1).1
  · exact (hletters i h.1).2

/-- The capital at a place of the alphabet. -/
theorem toUpper_of_letterAt (h : LetterAt i c) : c.toUpper = Char.ofNat ('A'.toNat + i) := by
  have hletters : ∀ i < 26, (Char.ofNat ('A'.toNat + i)).toUpper = Char.ofNat ('A'.toNat + i) ∧
      (Char.ofNat ('a'.toNat + i)).toUpper = Char.ofNat ('A'.toNat + i) := by decide
  obtain rfl | rfl := h.eq_ofNat
  · exact (hletters i h.1).1
  · exact (hletters i h.1).2

theorem sameLetter_iff : SameLetter c d ↔ IsLetter c ∧ IsLetter d ∧ c.toLower = d.toLower := by
  have hplaces : ∀ i < 26, ∀ j < 26, Char.ofNat ('a'.toNat + i) = Char.ofNat ('a'.toNat + j) →
      i = j := by decide
  constructor
  · rintro ⟨i, hc, hd⟩
    exact ⟨⟨i, hc⟩, ⟨i, hd⟩, by rw [toLower_of_letterAt hc, toLower_of_letterAt hd]⟩
  · rintro ⟨⟨i, hc⟩, ⟨j, hd⟩, h⟩
    rw [toLower_of_letterAt hc, toLower_of_letterAt hd] at h
    cases hplaces i hc.1 j hd.1 h
    exact ⟨i, hc, hd⟩

/-! ## Characters that differ in case -/

/-- The characters are equal, or one ASCII letter in either case. -/
def SameButCase (c d : Char) : Prop := c = d ∨ SameLetter c d

theorem isLetter_toLower (h : IsLetter c) : IsLetter c.toLower := by
  have hsmall : ∀ i < 26, LetterAt i (Char.ofNat ('a'.toNat + i)) := by decide
  obtain ⟨i, hi⟩ := h
  exact ⟨i, by rw [toLower_of_letterAt hi]; exact hsmall i hi.1⟩

theorem toLower_of_not_isLetter (h : ¬ IsLetter c) : c.toLower = c := by
  have hcapital : ¬ (c.val ≥ 'A'.val ∧ c.val ≤ 'Z'.val) := by
    intro hc
    have hupper : c.isUpper = true := decide_eq_true hc
    exact h (isAlpha_iff.mp (Bool.or_eq_true_iff.mpr (.inl hupper)))
  exact dif_neg hcapital

/-- What is no letter is its own small letter, so only letters share one. -/
theorem sameButCase_iff : SameButCase c d ↔ c.toLower = d.toLower := by
  constructor
  · rintro (rfl | h)
    · rfl
    · exact (sameLetter_iff.mp h).2.2
  · intro h
    by_cases hc : IsLetter c
    · by_cases hd : IsLetter d
      · exact .inr (sameLetter_iff.mpr ⟨hc, hd, h⟩)
      · rw [toLower_of_not_isLetter hd] at h
        exact absurd (h ▸ isLetter_toLower hc) hd
    · by_cases hd : IsLetter d
      · rw [toLower_of_not_isLetter hc] at h
        exact absurd (h ▸ isLetter_toLower hd) hc
      · rw [toLower_of_not_isLetter hc, toLower_of_not_isLetter hd] at h
        exact .inl h

instance (c d : Char) : Decidable (SameButCase c d) := decidable_of_iff _ sameButCase_iff.symm

theorem SameButCase.symm (h : SameButCase c d) : SameButCase d c :=
  sameButCase_iff.mpr (sameButCase_iff.mp h).symm

theorem SameButCase.trans {e : Char} (h : SameButCase c d) (h' : SameButCase d e) :
    SameButCase c e :=
  sameButCase_iff.mpr ((sameButCase_iff.mp h).trans (sameButCase_iff.mp h'))

theorem SameButCase.toUpper_eq (h : SameButCase c d) : c.toUpper = d.toUpper := by
  rcases h with rfl | ⟨i, hc, hd⟩
  · rfl
  · rw [toUpper_of_letterAt hc, toUpper_of_letterAt hd]

theorem utf8Size_of_letterAt (h : LetterAt i c) : c.utf8Size = 1 := by
  have hA : 'A'.toNat = 65 := rfl
  have ha : 'a'.toNat = 97 := rfl
  obtain ⟨hi, hc⟩ := h
  exact utf8Size_of_ascii (by omega)

theorem SameButCase.utf8Size_eq (h : SameButCase c d) : c.utf8Size = d.utf8Size := by
  rcases h with rfl | ⟨i, hc, hd⟩
  · rfl
  · rw [utf8Size_of_letterAt hc, utf8Size_of_letterAt hd]

/-! ## Texts that differ in case -/

variable {as bs : List Char}

theorem lowerAscii_eq_iff : lowerAscii as = lowerAscii bs ↔ List.Forall₂ SameButCase as bs := by
  rw [lowerAscii, lowerAscii, ← List.forall₂_eq_eq_eq, List.forall₂_map_left_iff,
    List.forall₂_map_right_iff]
  simp only [← sameButCase_iff]

theorem equalIgnoringCase_iff :
    equalIgnoringCase as bs = true ↔ List.Forall₂ SameButCase as bs := by
  rw [equalIgnoringCase, beq_iff_eq, lowerAscii_eq_iff]

theorem upperAscii_eq (h : List.Forall₂ SameButCase as bs) : upperAscii as = upperAscii bs := by
  induction h with
  | nil => rfl
  | cons hc _ ih =>
    simp only [upperAscii, List.map_cons, List.cons.injEq] at ih ⊢
    exact ⟨hc.toUpper_eq, ih⟩

theorem byteLength_eq (h : List.Forall₂ SameButCase as bs) : byteLength as = byteLength bs := by
  induction h with
  | nil => rfl
  | cons hc _ ih => rw [byteLength, byteLength, hc.utf8Size_eq, ih]

end RecordSieve.Text
