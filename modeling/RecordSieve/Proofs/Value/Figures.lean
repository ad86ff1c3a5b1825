/-
RecordSieve.Proofs.Value.Figures — the characters of written values.

Numbers, dates, moments and durations are written with digits, signs and
a few letters and points (`Text.figures`), and truth values with the
letters of two words (`Text.truthLetters`).  One lemma for each writer
says so, in the order of the writers.
-/
import RecordSieve.Proofs.Text.Size
import RecordSieve.Value.Basic

namespace RecordSieve

namespace Text

/-- The characters that numbers, dates, moments and durations are written with. -/
def figures : List Char := "0123456789+-.:DPSTe".toList

/-- The letters that truth values are written with. -/
def truthLetters : List Char := "aeflrstu".toList

theorem oneByte_figures : OneByte figures := by decide +kernel

theorem oneByte_truthLetters : OneByte truthLetters := by decide +kernel

theorem OneByte.subset {cs ds : List Char} (h : OneByte ds) (hcs : cs ⊆ ds) : OneByte cs :=
  fun c hc => h c (hcs hc)

end Text

open Text

/-! ## Numbers -/

namespace Decimal

theorem digitChar_mem_figures (n : Nat) : digitChar n ∈ figures := by
  have h : n % 10 < 10 := Nat.mod_lt _ (by decide)
  have hall : ∀ d < 10, Char.ofNat (48 + d) ∈ figures := by decide
  exact hall _ h

theorem digits_subset (n : Nat) : digits n ⊆ figures := by
  fun_induction digits n with
  | case1 n h => simp [digitChar_mem_figures]
  | case2 n h ih => simp [List.append_subset, ih, digitChar_mem_figures]

theorem replicate_zero_subset (n : Nat) : List.replicate n '0' ⊆ figures := fun c hc => by
  rw [List.eq_of_mem_replicate hc]
  decide

theorem padded_subset (width n : Nat) : padded width n ⊆ figures :=
  List.append_subset.mpr ⟨replicate_zero_subset _, digits_subset n⟩

theorem sign_mem_figures (p : Prop) [Decidable p] : (if p then '-' else '+') ∈ figures := by
  split <;> decide

theorem ofInt_subset (i : Int) : ofInt i ⊆ figures := by
  rw [ofInt]
  split
  · exact List.cons_subset.mpr ⟨by decide, digits_subset _⟩
  · exact digits_subset _

theorem positionalText_subset {ds : List Char} (h : ds ⊆ figures) (exponent : Int)
    (pointZero : Bool) : Layout.positionalText ds exponent pointZero ⊆ figures := by
  rw [Layout.positionalText]
  split
  · have hwhole : ds ++ List.replicate exponent.toNat '0' ⊆ figures :=
      List.append_subset.mpr ⟨h, replicate_zero_subset _⟩
    refine List.append_subset.mpr ⟨hwhole, ?_⟩
    cases pointZero <;> decide
  · dsimp only
    split
    · have hfront n : ds.take n ⊆ figures := List.Subset.trans (List.take_subset n ds) h
      have hback n : ds.drop n ⊆ figures := List.Subset.trans (List.drop_subset n ds) h
      exact List.append_subset.mpr ⟨hfront _, List.cons_subset.mpr ⟨by decide, hback _⟩⟩
    · simp only [List.append_subset, List.cons_subset]
      exact ⟨⟨by decide, by decide, replicate_zero_subset _⟩, h⟩

theorem exponentText_subset {ds : List Char} (h : ds ⊆ figures) (leading : Int) :
    Layout.exponentText ds leading ⊆ figures := by
  unfold Layout.exponentText
  simp only [List.append_subset, List.cons_subset]
  refine ⟨?_, by decide, sign_mem_figures _, digits_subset _⟩
  split
  · simp only [List.cons_subset] at h ⊢
    exact ⟨h.1, by decide, h.2⟩
  · exact h

theorem Layout.write_subset (layout : Layout) (x : Binary64) : layout.write x ⊆ figures := by
  have hds := digits_subset (x.shortest layout.tie).significand
  have hbody (p : Bool) (leading : Int) : (if p then
      positionalText (digits (x.shortest layout.tie).significand)
        (x.shortest layout.tie).exponent layout.pointZero
      else exponentText (digits (x.shortest layout.tie).significand) leading) ⊆ figures := by
    cases p with
    | true => exact positionalText_subset hds _ _
    | false => exact exponentText_subset hds _
  rw [write]
  split
  · exact List.cons_subset.mpr ⟨by decide, hbody _ _⟩
  · exact hbody _ _

end Decimal

open Decimal

/-! ## Dates and moments -/

theorem Calendar.yearText_subset (year : Int) : yearText year ⊆ figures := by
  rw [yearText]
  split
  · exact padded_subset _ _
  · exact List.cons_subset.mpr ⟨sign_mem_figures _, padded_subset _ _⟩

theorem Date.write_subset (d : Date) : d.write ⊆ figures := by
  simp only [write, List.append_subset, List.cons_subset]
  exact ⟨Calendar.yearText_subset _, by decide, padded_subset _ _, by decide, padded_subset _ _⟩

theorem Calendar.fractionText_subset (nanos : Nat) : fractionText nanos ⊆ figures := by
  have hplaces width n : '.' :: padded width n ⊆ figures :=
    List.cons_subset.mpr ⟨by decide, padded_subset width n⟩
  rw [fractionText]
  split
  · exact List.nil_subset _
  · split
    · exact hplaces _ _
    · split <;> exact hplaces _ _

theorem ClockTime.write_subset (t : ClockTime) : t.write ⊆ figures := by
  simp only [write, List.append_subset, List.cons_subset]
  exact ⟨padded_subset _ _, by decide, padded_subset _ _, by decide, padded_subset _ _,
    Calendar.fractionText_subset _⟩

theorem Calendar.offsetText_subset (offset : Int) : offsetText offset ⊆ figures := by
  simp only [offsetText, List.append_subset, List.cons_subset]
  exact ⟨sign_mem_figures _, padded_subset _ _, by decide, padded_subset _ _⟩

theorem Moment.write_subset (m : Moment) : m.write ⊆ figures := by
  simp only [write, List.append_subset, List.cons_subset]
  exact ⟨m.date.write_subset, by decide, m.time.write_subset, Calendar.offsetText_subset _⟩

/-! ## Durations -/

theorem Duration.fractionDigits_subset (nanos : Nat) : fractionDigits nanos ⊆ figures := by
  intro c hc
  rw [fractionDigits, List.mem_reverse] at hc
  exact padded_subset 9 nanos (List.mem_reverse.mp ((List.dropWhile_sublist _).subset hc))

theorem Duration.write_subset (d : Duration) : d.write ⊆ figures := by
  have hfraction (n : Nat) :
      (if n % 1000000000 = 0 then [] else '.' :: fractionDigits (n % 1000000000)) ⊆ figures := by
    split
    · exact List.nil_subset _
    · exact List.cons_subset.mpr ⟨by decide, fractionDigits_subset _⟩
  have hbody : 'P' :: 'T' :: (digits (d.nanos.natAbs / 1000000000) ++
      (if d.nanos.natAbs % 1000000000 = 0 then []
        else '.' :: fractionDigits (d.nanos.natAbs % 1000000000)) ++ ['S']) ⊆ figures := by
    simp only [List.append_subset, List.cons_subset]
    exact ⟨by decide, by decide, ⟨digits_subset _, hfraction _⟩, by decide, List.nil_subset _⟩
  rw [write]
  dsimp only
  split
  · decide
  · split
    · exact List.cons_subset.mpr ⟨by decide, hbody⟩
    · exact hbody

/-! ## Values -/

/-- The characters that the values of a type other than strings are
written with. -/
def FieldType.alphabet : FieldType → List Char
  | .boolean => truthLetters
  | _ => figures

theorem FieldValue.write_subset {v : FieldValue} (h : v.kind ≠ .string) :
    v.write.toList ⊆ v.kind.alphabet := by
  cases v with
  | string s => exact absurd rfl h
  | boolean b => cases b <;> decide
  | integer i =>
    rw [write, intText, String.toList_ofList]
    exact ofInt_subset i
  | double x =>
    rw [write, String.toList_ofList]
    exact Layout.write_subset _ x
  | dateTime m =>
    rw [write, String.toList_ofList]
    exact m.write_subset
  | date d =>
    rw [write, String.toList_ofList]
    exact d.write_subset
  | duration d =>
    rw [write, String.toList_ofList]
    exact d.write_subset

end RecordSieve
