/-
RecordSieve.Proofs.Text.NormalForm — decomposed text decomposes to itself.

A text stays as it is under decomposition if each of its characters does
and every mark stands where canonical order puts it.  Order is a matter
of neighbours (`Follows`), so a text that is put together from pieces of
decomposed text is decomposed if it is where the pieces meet; and as
letters with case have class 0, it makes no difference to the order
whether a letter is capital or small.
-/
import Mathlib.Data.List.Chain
import RecordSieve.Proofs.Text.LetterCase

namespace RecordSieve.Text

open Decomposition

/-! ## Characters -/

/-- A set of numbers as the bits of one number. -/
def bits (ns : List Nat) : Nat := ns.foldr (fun n m => 1 <<< n ||| m) 0

theorem testBit_bits {ns : List Nat} {n : Nat} : (bits ns).testBit n = true ↔ n ∈ ns := by
  induction ns with
  | nil => simp [bits]
  | cons m ns ih =>
    rw [bits, List.foldr_cons, Nat.testBit_or, Nat.one_shiftLeft, Nat.testBit_two_pow,
      Bool.or_eq_true, decide_eq_true_eq, List.mem_cons, eq_comm]
    exact or_congr_right ih

theorem not_mem_of_bits {ms ns : List Nat} (h : bits ms &&& bits ns = 0) {n : Nat}
    (hn : n ∈ ms) : n ∉ ns := by
  intro hn'
  have hbit : (bits ms &&& bits ns).testBit n = true := by
    rw [Nat.testBit_and, testBit_bits.mpr hn, testBit_bits.mpr hn']
    rfl
  rw [h, Nat.zero_testBit] at hbit
  cases hbit

/-- The code points that have a row in the table. -/
def rowKeys : List Nat := pages.flatMap fun page => page.2.2.map (·.1)

/-- The code points that the rows consist of. -/
def rowCodes : List Nat := pages.flatMap fun page => page.2.2.flatMap (·.2)

-- Each of the many codes would be looked up among the many keys, so both
-- are compared at one stroke.
theorem rowCodes_disjoint_rowKeys : bits rowCodes &&& bits rowKeys = 0 := by decide +kernel

theorem jamo_not_mem_rowKeys {code : Nat} (h : 0x1100 ≤ code ∧ code ≤ 0x11FF) :
    code ∉ rowKeys := by
  intro hcode
  obtain ⟨page, hpage, hcode⟩ := List.mem_flatMap.mp hcode
  obtain ⟨row, hrow, rfl⟩ := List.mem_map.mp hcode
  have := (sound_of_mem_pages hpage hrow).2.1
  omega

theorem rowCodes_not_hangul :
    ∀ code ∈ rowCodes, ¬ (hangulFirst ≤ code ∧ code ≤ hangulLast) := by
  intro code hcode
  obtain ⟨page, hpage, hcode⟩ := List.mem_flatMap.mp hcode
  obtain ⟨row, hrow, hcode⟩ := List.mem_flatMap.mp hcode
  have := ((sound_of_mem_pages hpage hrow).2.2 code hcode).2
  omega

theorem row?_of_not_mem_rowKeys {n : Nat} (h : n ∉ rowKeys) : row? n = none := by
  refine Option.eq_none_iff_forall_ne_some.mpr fun codes hrow => h ?_
  rw [row?] at hrow
  obtain ⟨page, hpage, hrow⟩ := Option.bind_eq_some_iff.mp hrow
  obtain ⟨before, after, hpage', -⟩ := List.lookup_eq_some_iff.mp hrow
  refine List.mem_flatMap.mpr ⟨page, List.mem_of_find?_eq_some hpage, ?_⟩
  rw [hpage']
  simp

/-- A code point without a row is its own decomposition, unless it is a syllable. -/
theorem ofChar_of_not_mem_rowKeys {code : Nat} (hrow : code ∉ rowKeys)
    (hhangul : ¬ (hangulFirst ≤ code ∧ code ≤ hangulLast)) :
    ofChar (Char.ofNat code) = [Char.ofNat code] := by
  by_cases hsmall : (Char.ofNat code).toNat < 0xC0
  · rw [ofChar, if_pos hsmall]
  · have hcode : code = (Char.ofNat code).toNat := toNat_of_ofNat_eq rfl (by omega)
    rw [ofChar, if_neg hsmall, ← hcode, if_neg (by simpa using hhangul),
      row?_of_not_mem_rowKeys hrow]

theorem ofChar_of_mem_rowCodes {code : Nat} (h : code ∈ rowCodes) :
    ofChar (Char.ofNat code) = [Char.ofNat code] :=
  ofChar_of_not_mem_rowKeys (not_mem_of_bits rowCodes_disjoint_rowKeys h)
    (rowCodes_not_hangul code h)

theorem ofChar_of_mem_jamo {s code : Nat} (hs : s < 11172) (hcode : code ∈ jamo s) :
    ofChar (Char.ofNat code) = [Char.ofNat code] := by
  have hrange : 0x1100 ≤ code ∧ code ≤ 0x11FF := by
    rw [jamo] at hcode
    split at hcode <;> simp at hcode <;> omega
  refine ofChar_of_not_mem_rowKeys (jamo_not_mem_rowKeys hrange) ?_
  unfold hangulFirst hangulLast
  omega

/-- The characters of a decomposition are decomposed to the end. -/
theorem ofChar_of_mem_ofChar {c d : Char} (h : d ∈ ofChar c) : ofChar d = [d] := by
  rcases ofChar_cases c with hc | ⟨s, hs, hc⟩ | ⟨page, hpage, row, hrow, hc⟩
  · rw [hc] at h
    rw [List.mem_singleton.mp h, hc]
  · rw [hc] at h
    obtain ⟨code, hcode, rfl⟩ := List.mem_map.mp h
    exact ofChar_of_mem_jamo hs hcode
  · rw [hc] at h
    obtain ⟨code, hcode, rfl⟩ := List.mem_map.mp h
    refine ofChar_of_mem_rowCodes (List.mem_flatMap.mpr ⟨page, hpage, ?_⟩)
    exact List.mem_flatMap.mpr ⟨row, hrow, hcode⟩

theorem ofChar_of_mem_decompose {c : Char} {cs : List Char} (h : c ∈ decompose cs) :
    ofChar c = [c] := by
  obtain ⟨d, -, hd⟩ := mem_decompose.mp h
  exact ofChar_of_mem_ofChar hd

/-! ## Canonical order -/

/-- `d` may stand right behind `c` in canonical order. -/
def Follows (c d : Char) : Prop := combiningClass d = 0 ∨ combiningClass c ≤ combiningClass d

theorem place_of_follows {c : Char} {ds : List Char} (h : ∀ d ∈ ds.head?, Follows c d) :
    place c ds = c :: ds := by
  cases ds with
  | nil => rfl
  | cons d ds =>
    have hd : Follows c d := h d rfl
    rw [place, if_neg]
    simp only [Bool.and_eq_true, decide_eq_true_eq, not_and]
    unfold Follows at hd
    omega

theorem head?_place (c : Char) (ds : List Char) :
    (place c ds).head? = some c ∨ (place c ds).head? = ds.head? := by
  cases ds with
  | nil => exact .inl rfl
  | cons d ds =>
    rw [place]
    split
    · exact .inr rfl
    · exact .inl rfl

theorem isChain_place {c : Char} {ds : List Char} (h : ds.IsChain Follows) :
    (place c ds).IsChain Follows := by
  induction ds with
  | nil => exact List.isChain_singleton c
  | cons d ds ih =>
    rw [List.isChain_cons] at h
    rw [place]
    split
    · next hbehind =>
      simp only [Bool.and_eq_true, decide_eq_true_eq] at hbehind
      refine List.isChain_cons.mpr ⟨fun e he => ?_, ih h.2⟩
      rcases head?_place c ds with hhead | hhead
      · rw [hhead] at he
        cases he
        exact .inr (Nat.le_of_lt hbehind.2)
      · exact h.1 e (hhead ▸ he)
    · next hnot =>
      simp only [Bool.and_eq_true, decide_eq_true_eq, not_and] at hnot
      refine List.isChain_cons.mpr ⟨fun e he => ?_, List.isChain_cons.mpr h⟩
      cases he
      unfold Follows
      omega

theorem isChain_decompose (cs : List Char) : (decompose cs).IsChain Follows := by
  rw [decompose, reorder]
  induction cs.flatMap ofChar with
  | nil => exact List.isChain_nil
  | cons c cs ih => exact isChain_place ih

theorem reorder_of_isChain {cs : List Char} (h : cs.IsChain Follows) : reorder cs = cs := by
  induction cs with
  | nil => rfl
  | cons c cs ih =>
    rw [List.isChain_cons] at h
    have htail : cs.foldr place [] = cs := ih h.2
    rw [reorder, List.foldr_cons, htail, place_of_follows h.1]

/-- A text of decomposed characters in canonical order is its own decomposition. -/
theorem decompose_of_isChain {cs : List Char} (hchars : ∀ c ∈ cs, ofChar c = [c])
    (horder : cs.IsChain Follows) : decompose cs = cs := by
  have hflat : cs.flatMap ofChar = cs := by
    rw [List.flatMap_congr hchars, List.flatMap_singleton']
  rw [decompose, hflat, reorder_of_isChain horder]

/-! ## Capital and small -/

theorem casedStretches_apart_combiningClassRanges :
    apart casedStretches (combiningClassRanges.map fun row => (row.1, row.2.1)) = true := by
  decide +kernel

theorem combiningClass_of_mem_stretch {c : Char} {stretch : Nat × Nat}
    (hstretch : stretch ∈ casedStretches) (hc : stretch.1 ≤ c.toNat ∧ c.toNat ≤ stretch.2) :
    combiningClass c = 0 := by
  have houtside := not_inRanges_of_apart casedStretches_apart_combiningClassRanges hstretch hc
  rw [inRanges, List.any_map, List.any_eq_false] at houtside
  have hnone : combiningClassRanges.find? (fun row => row.1 ≤ c.toNat && c.toNat ≤ row.2.1) =
      none := List.find?_eq_none.mpr houtside
  rw [combiningClass, hnone]

/-- A letter has the class of its lower case. -/
theorem combiningClass_of_lowercase {c d : Char} (h : lowercase c = [d]) :
    combiningClass d = combiningClass c := by
  rcases lowercase_cases c with rfl | ⟨run, hrun, hin, hlower⟩ | hself
  · rw [show lowercase dottedCapitalI = ['i', '\u0307'] from rfl] at h
    cases h
  · obtain ⟨⟨capitals, hcapitals, hcapital⟩, smalls, hsmalls, hsmall⟩ :=
      lowercaseRuns_inside_casedStretches run hrun
    have hcode := toNat_ofNat_of_mem_stretch (n := run.2.2.2 + (c.toNat - run.1)) hsmalls (by omega)
    rw [hlower, List.singleton_inj] at h
    rw [combiningClass_of_mem_stretch (c := c) hcapitals (by omega), ← h]
    exact combiningClass_of_mem_stretch hsmalls (by omega)
  · rw [hself, List.singleton_inj] at h
    rw [h]

/-- Letters that differ in case only may stand behind the same, and before the same. -/
theorem follows_of_lowercase_eq {c d e : Char} (hc : c ≠ dottedCapitalI)
    (h : lowercase c = lowercase d) (hfollows : Follows c e) : Follows d e := by
  obtain ⟨l, hl⟩ := lowercase_eq_singleton hc
  have hclass : combiningClass c = combiningClass d :=
    (combiningClass_of_lowercase hl).symm.trans (combiningClass_of_lowercase (h ▸ hl))
  rw [Follows, ← hclass]
  exact hfollows

end RecordSieve.Text
