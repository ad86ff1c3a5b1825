/-
RecordSieve.Proofs.Text.Decomposition — the characters of decomposed
text, and their lower case.

Lower-casing is one character for one, except for the capital I with a
dot; and that one has a decomposition, so decomposed text does not hold
it.  Two decomposed texts with one lower case therefore stand letter
against letter (`eq_of_lowercaseAll_eq`).
-/
import RecordSieve.Text.Decomposition
import RecordSieve.Text.LetterCase

namespace RecordSieve.Text

open Decomposition

/-! ## Decomposed text -/

theorem mem_place {c d : Char} {ds : List Char} : d ∈ place c ds ↔ d = c ∨ d ∈ ds := by
  induction ds with
  | nil => simp [place]
  | cons e ds ih =>
    rw [place]
    split
    · rw [List.mem_cons, ih, List.mem_cons, or_left_comm]
    · exact List.mem_cons

theorem mem_decompose {c : Char} {cs : List Char} :
    c ∈ decompose cs ↔ ∃ d ∈ cs, c ∈ ofChar d := by
  rw [← List.mem_flatMap, decompose, reorder]
  induction cs.flatMap ofChar with
  | nil => simp
  | cons d ds ih => rw [List.foldr_cons, mem_place, ih, List.mem_cons]

/-- A character is its own decomposition, or a Hangul syllable, or it has
a row in the table. -/
theorem ofChar_cases (c : Char) : ofChar c = [c] ∨
    (∃ s < 11172, ofChar c = (jamo s).map Char.ofNat) ∨
    ∃ page ∈ pages, ∃ row ∈ page.2.2, ofChar c = row.2.map Char.ofNat := by
  rw [ofChar]
  split
  · exact .inl rfl
  · split
    · next hhangul =>
      simp only [Bool.and_eq_true, decide_eq_true_eq] at hhangul
      refine .inr (.inl ⟨_, ?_, rfl⟩)
      unfold hangulFirst hangulLast at *
      omega
    · split
      · next codes hrow =>
        rw [row?] at hrow
        obtain ⟨page, hpage, hrow⟩ := Option.bind_eq_some_iff.mp hrow
        obtain ⟨before, after, hpage', -⟩ := List.lookup_eq_some_iff.mp hrow
        refine .inr (.inr ⟨page, List.mem_of_find?_eq_some hpage, (c.toNat, codes), ?_, rfl⟩)
        rw [hpage']
        simp
      · exact .inl rfl

theorem toNat_of_ofNat_eq {n : Nat} {c : Char} (h : Char.ofNat n = c) (hc : c.toNat ≠ 0) :
    n = c.toNat := by
  by_cases hn : n.isValidChar
  · rw [Char.ofNat, dif_pos hn] at h
    rw [← h]
    rfl
  · rw [Char.ofNat, dif_neg hn] at h
    rw [← h] at hc
    exact absurd rfl hc

/-- What is tested of a row: it has codes, and is not that of a jamo; and
none of its codes is a Hangul syllable or the capital I with a dot. -/
def isSoundRow (row : Nat × List Nat) : Bool :=
  !row.2.isEmpty && (row.1.blt 0x1100 || Nat.blt 0x11FF row.1) &&
    row.2.all fun code => code != 0x130 && (code.blt hangulFirst || hangulLast.blt code)

-- The table is gone through once, and with truth values: propositions on
-- thousands of codes are decided much more slowly.
theorem pages_sound : (pages.all fun page => page.2.2.all isSoundRow) = true := by decide +kernel

theorem sound_of_mem_pages {page : Nat × Nat × List Row} {row : Row} (hpage : page ∈ pages)
    (hrow : row ∈ page.2.2) :
    row.2 ≠ [] ∧ (row.1 < 0x1100 ∨ 0x11FF < row.1) ∧
      ∀ code ∈ row.2, code ≠ 0x130 ∧ (code < hangulFirst ∨ hangulLast < code) := by
  have h := List.all_eq_true.mp (List.all_eq_true.mp pages_sound page hpage) row hrow
  simpa [isSoundRow, Nat.blt_eq, and_assoc] using h

/-- The capital I with a dot, the only character whose lower case is two
characters. -/
def dottedCapitalI : Char := '\u0130'

theorem dottedCapitalI_not_mem_jamo {s : Nat} (hs : s < 11172) :
    dottedCapitalI ∉ (jamo s).map Char.ofNat := by
  intro h
  obtain ⟨n, hn, h⟩ := List.mem_map.mp h
  have hn' : n = 0x130 := toNat_of_ofNat_eq h (by decide)
  rw [jamo] at hn
  split at hn <;> simp at hn <;> omega

theorem dottedCapitalI_not_mem_pages :
    ∀ page ∈ pages, ∀ row ∈ page.2.2, dottedCapitalI ∉ row.2.map Char.ofNat := by
  intro page hpage row hrow h
  obtain ⟨code, hcode, heq⟩ := List.mem_map.mp h
  have hdotted : code = 0x130 := toNat_of_ofNat_eq heq (by decide)
  exact ((sound_of_mem_pages hpage hrow).2.2 code hcode).1 hdotted

theorem dottedCapitalI_not_mem_ofChar (c : Char) : dottedCapitalI ∉ ofChar c := by
  intro h
  rcases ofChar_cases c with hc | ⟨s, hs, hc⟩ | ⟨page, hpage, row, hrow, hc⟩
  · rw [hc] at h
    rw [← List.mem_singleton.mp h, show ofChar dottedCapitalI = ['I', '\u0307'] from rfl] at hc
    cases (List.cons.inj hc).2
  · exact dottedCapitalI_not_mem_jamo hs (hc ▸ h)
  · exact dottedCapitalI_not_mem_pages page hpage row hrow (hc ▸ h)

/-- It has a decomposition, so decomposed text is free of it. -/
theorem dottedCapitalI_not_mem_decompose (cs : List Char) : dottedCapitalI ∉ decompose cs := by
  intro h
  obtain ⟨c, -, hc⟩ := mem_decompose.mp h
  exact dottedCapitalI_not_mem_ofChar c hc

/-- No row of the table is empty, and so no decomposition of a character. -/
theorem ofChar_ne_nil (c : Char) : ofChar c ≠ [] := by
  intro h
  rcases ofChar_cases c with hc | ⟨s, hs, hc⟩ | ⟨page, hpage, row, hrow, hc⟩
  · cases hc.symm.trans h
  · rw [h, jamo] at hc
    split at hc <;> cases hc
  · rw [h] at hc
    exact (sound_of_mem_pages hpage hrow).1 (List.map_eq_nil_iff.mp hc.symm)

theorem decompose_eq_nil_iff {cs : List Char} : decompose cs = [] ↔ cs = [] := by
  cases cs with
  | nil => simp
  | cons c cs =>
    refine iff_of_false (fun h => ?_) (List.cons_ne_nil c cs)
    obtain ⟨d, hd⟩ := List.exists_mem_of_ne_nil _ (ofChar_ne_nil c)
    have hmem : d ∈ decompose (c :: cs) := mem_decompose.mpr ⟨c, List.mem_cons_self, hd⟩
    rw [h] at hmem
    cases hmem

/-! ## Lower case, letter by letter -/

theorem lowercase_eq_singleton {c : Char} (h : c ≠ dottedCapitalI) : ∃ d, lowercase c = [d] := by
  have hc : c.toNat ≠ 0x130 := fun hc => h (Char.toNat_inj.mp hc)
  rw [lowercase, if_neg hc]
  split
  · exact ⟨_, rfl⟩
  · exact ⟨c, rfl⟩

/-- Texts with one lower case and the same letters capital are the same
text, if no two letters in one place have the same lower case and case. -/
theorem eq_of_lowercaseAll_eq {cs ds : List Char} (hcs : dottedCapitalI ∉ cs)
    (hds : dottedCapitalI ∉ ds) (hlower : lowercaseAll cs = lowercaseAll ds)
    (hupper : cs.map isUppercase = ds.map isUppercase)
    (hpairs : ∀ p ∈ cs.zip ds, lowercase p.1 = lowercase p.2 →
      isUppercase p.1 = isUppercase p.2 → p.1 = p.2) : cs = ds := by
  induction cs generalizing ds with
  | nil => exact (List.map_eq_nil_iff.mp hupper.symm).symm
  | cons c cs ih =>
    cases ds with
    | nil => simp at hupper
    | cons d ds =>
      rw [List.mem_cons, not_or] at hcs hds
      obtain ⟨lc, hlc⟩ := lowercase_eq_singleton (Ne.symm hcs.1)
      obtain ⟨ld, hld⟩ := lowercase_eq_singleton (Ne.symm hds.1)
      simp only [lowercaseAll, List.flatMap_cons, hlc, hld, List.singleton_append,
        List.cons.injEq] at hlower
      simp only [List.map_cons, List.cons.injEq] at hupper
      have hhead : c = d := hpairs (c, d) (by simp) (by rw [hlc, hld, hlower.1]) hupper.1
      have htail : cs = ds := ih hcs.2 hds.2 hlower.2 hupper.2 fun p hp =>
        hpairs p (by rw [List.zip_cons_cons]; exact List.mem_cons_of_mem _ hp)
      rw [hhead, htail]

end RecordSieve.Text
