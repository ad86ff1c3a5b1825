/-
RecordSieve.Proofs.Text.Size — texts by their bytes.

A text is cut at a number of bytes from either end, and that works only
where a character ends.  Two bytes before the end this depends on the
last one or two characters (`cutTwoBytes?_eq_none_iff`); after a part of
the text it always works (`cutAtByte?_append`).
-/
import RecordSieve.Text.Size

namespace RecordSieve.Text

theorem byteLength_append (as bs : List Char) :
    byteLength (as ++ bs) = byteLength as + byteLength bs := by
  induction as with
  | nil => simp [byteLength]
  | cons a as ih => simp [byteLength, ih, Nat.add_assoc]

/-! ## One byte a character -/

/-- What is said of the characters of a text is decided along the text, and
not along all characters. -/
instance decidableForallMem (cs : List Char) (p : Char → Prop) [DecidablePred p] :
    Decidable (∀ c ∈ cs, p c) :=
  List.decidableBAll p cs

/-- Each character of the text takes one byte. -/
def OneByte (cs : List Char) : Prop := ∀ c ∈ cs, c.utf8Size = 1

instance (cs : List Char) : Decidable (OneByte cs) :=
  decidable_of_iff (cs.all fun c => c.utf8Size == 1) (by simp [OneByte])

theorem oneByte_cons {c : Char} {cs : List Char} :
    OneByte (c :: cs) ↔ c.utf8Size = 1 ∧ OneByte cs := List.forall_mem_cons

theorem OneByte.append {as bs : List Char} (ha : OneByte as) (hb : OneByte bs) :
    OneByte (as ++ bs) := fun c hc => (List.mem_append.mp hc).elim (ha c) (hb c)

/-- An ASCII character takes one byte. -/
theorem utf8Size_of_ascii {c : Char} (h : c.toNat < 128) : c.utf8Size = 1 :=
  Char.utf8Size_eq_one_iff.mpr (UInt32.le_iff_toNat_le.mpr (Nat.le_of_lt_succ h))

theorem byteLength_of_oneByte {cs : List Char} (h : OneByte cs) : byteLength cs = cs.length := by
  induction cs with
  | nil => rfl
  | cons c cs ih =>
    obtain ⟨hc, hcs⟩ := oneByte_cons.mp h
    rw [byteLength, hc, ih hcs, List.length_cons, Nat.add_comm]

theorem exists_wide_of_not_oneByte {cs : List Char} (h : ¬ OneByte cs) :
    ∃ c ∈ cs, 1 < c.utf8Size := by
  refine Decidable.byContradiction fun hwide => h fun c hc => ?_
  have hpos := c.utf8Size_pos
  have hnot : ¬ 1 < c.utf8Size := fun hc' => hwide ⟨c, hc, hc'⟩
  omega

/-! ## Cutting before the end -/

theorem byteLength_eq_two_iff {cs : List Char} :
    byteLength cs = 2 ↔
      (∃ c, cs = [c] ∧ c.utf8Size = 2) ∨
      ∃ d c, cs = [d, c] ∧ d.utf8Size = 1 ∧ c.utf8Size = 1 := by
  -- A character has one byte at least, so three of them are too many.
  match cs with
  | [] => simp [byteLength]
  | [c] => simp [byteLength]
  | [d, c] =>
    have hd := d.utf8Size_pos
    have hc := c.utf8Size_pos
    simp only [byteLength, List.cons.injEq, reduceCtorEq, and_false, false_and, exists_false,
      and_true, false_or]
    constructor
    · intro h
      exact ⟨d, c, ⟨rfl, rfl⟩, by omega, by omega⟩
    · rintro ⟨d', c', ⟨rfl, rfl⟩, h⟩
      omega
  | e :: d :: c :: cs =>
    have he := e.utf8Size_pos
    have hd := d.utf8Size_pos
    have hc := c.utf8Size_pos
    simp only [byteLength, List.cons.injEq, reduceCtorEq, and_false, false_and, exists_false,
      or_false, iff_false]
    omega

/-- What is cut off takes two bytes. -/
theorem byteLength_of_cutTwoBytes? {cs front back : List Char}
    (h : cutTwoBytes? cs = some (front, back)) : byteLength back = 2 := by
  unfold cutTwoBytes? at h
  split at h
  · split at h
    · next hc =>
      cases h
      simpa [byteLength] using hc
    · split at h
      · split at h
        · next hc =>
          cases h
          simp only [Bool.and_eq_true, beq_iff_eq] at hc
          simp [byteLength, hc.1, hc.2]
        · cases h
      · cases h
  · cases h

/-- A text is cut two bytes before its end if it has an end of two bytes. -/
theorem cutTwoBytes?_eq_none_iff {cs : List Char} :
    cutTwoBytes? cs = none ↔ ∀ front back, front ++ back = cs → byteLength back ≠ 2 := by
  constructor
  · rintro h front back rfl hback
    rcases byteLength_eq_two_iff.mp hback with ⟨c, rfl, hc⟩ | ⟨d, c, rfl, hd, hc⟩
    · simp [cutTwoBytes?, hc] at h
    · simp [cutTwoBytes?, hc, hd] at h
  · intro h
    cases hcut : cutTwoBytes? cs with
    | none => rfl
    | some p =>
      obtain ⟨front, back⟩ := p
      exact absurd (byteLength_of_cutTwoBytes? hcut) (h front back (append_of_cutTwoBytes? hcut))

/-- Two characters of one byte each at the end are what is cut off. -/
theorem cutTwoBytes?_append {as bs : List Char} (hb : OneByte bs) (htwo : bs.length = 2) :
    cutTwoBytes? (as ++ bs) = some (as, bs) := by
  match bs, htwo with
  | [d, c], _ =>
    have hd : d.utf8Size = 1 := hb d (by simp)
    have hc : c.utf8Size = 1 := hb c (by simp)
    simp [cutTwoBytes?, hd, hc]

/-! ## Cutting after the start -/

/-- A text cut after a number of bytes, if a character ends there. -/
def cutAtByte? : Nat → List Char → Option (List Char × List Char)
  | 0, cs => some ([], cs)
  | _ + 1, [] => none
  | n + 1, c :: cs =>
    if c.utf8Size ≤ n + 1 then
      (cutAtByte? (n + 1 - c.utf8Size) cs).map fun p => (c :: p.1, p.2)
    else none

theorem cutAtByte?_append (as bs : List Char) :
    cutAtByte? (byteLength as) (as ++ bs) = some (as, bs) := by
  induction as with
  | nil => cases bs <;> rfl
  | cons a as ih =>
    have hpos := a.utf8Size_pos
    obtain ⟨n, hn⟩ : ∃ n, byteLength (a :: as) = n + 1 :=
      ⟨byteLength (a :: as) - 1, by rw [byteLength]; omega⟩
    have hrest : n + 1 - a.utf8Size = byteLength as := by rw [← hn, byteLength]; omega
    have hle : a.utf8Size ≤ n + 1 := by rw [← hn, byteLength]; omega
    rw [hn, List.cons_append, cutAtByte?, if_pos hle, hrest, ih]
    rfl

end RecordSieve.Text
