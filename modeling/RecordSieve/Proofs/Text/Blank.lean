/-
RecordSieve.Proofs.Text.Blank — what trimming leaves of a text.

Trimming takes characters away at both ends and nowhere else.  A trimmed
text has nothing left to trim, also with a character that is no blank put
in front of it (`trim_cons_trim`).
-/
import Mathlib.Data.List.DropRight
import RecordSieve.Text.Blank

namespace RecordSieve.Text

theorem trimLeft_append_of_isAllBlank {blanks : List Char} (h : isAllBlank blanks = true)
    (cs : List Char) : trimLeft (blanks ++ cs) = trimLeft cs :=
  List.dropWhile_append_of_pos (List.all_eq_true.mp h)

theorem trimLeft_trimLeft (cs : List Char) : trimLeft (trimLeft cs) = trimLeft cs :=
  List.dropWhile_idempotent isBlank cs

theorem trimLeft_of_isAllBlank {cs : List Char} (h : isAllBlank cs = true) : trimLeft cs = [] :=
  List.dropWhile_eq_nil_iff.mpr (List.all_eq_true.mp h)

/-- What is trimmed off the front are blanks. -/
theorem exists_blanks_append (cs : List Char) :
    ∃ blanks, isAllBlank blanks = true ∧ cs = blanks ++ trimLeft cs :=
  ⟨cs.takeWhile isBlank, List.all_eq_true.mpr fun _ => List.mem_takeWhile_imp,
    List.takeWhile_append_dropWhile.symm⟩

theorem trim_subset (cs : List Char) : trim cs ⊆ cs := by
  intro c hc
  rw [trim, trimRight, List.mem_reverse] at hc
  have hc := (List.dropWhile_sublist _).subset hc
  exact (List.dropWhile_sublist _).subset (List.mem_reverse.mp hc)

theorem trim_of_isAllBlank {cs : List Char} (h : isAllBlank cs = true) : trim cs = [] := by
  rw [trim, trimLeft_of_isAllBlank h]
  rfl

theorem trimRight_trimRight (cs : List Char) : trimRight (trimRight cs) = trimRight cs := by
  rw [trimRight, trimRight, List.reverse_reverse, List.dropWhile_idempotent]

/-- A trimmed text ends with no blank. -/
theorem eq_nil_of_trim_eq_append {cs front back : List Char} (h : trim cs = front ++ back)
    (hback : isAllBlank back = true) : back = [] := by
  have htrim : trimRight (front ++ back) = front ++ back := h ▸ trimRight_trimRight _
  have hdrop : trimRight (front ++ back) = trimRight front := by
    rw [trimRight, trimRight, List.reverse_append, List.dropWhile_append_of_pos]
    intro c hc
    exact List.all_eq_true.mp hback c (List.mem_reverse.mp hc)
  have hlength : (trimRight front).length ≤ front.length := by
    simpa [trimRight] using (List.dropWhile_sublist isBlank (l := front.reverse)).length_le
  rw [← hdrop, htrim, List.length_append] at hlength
  exact List.length_eq_zero_iff.mp (by omega)

/-- A character that is no blank shields what is in front of it. -/
theorem trimRight_cons {c : Char} {cs : List Char} (hc : isBlank c = false)
    (hcs : trimRight cs = cs) : trimRight (c :: cs) = c :: cs := by
  have hdrop : cs.reverse.dropWhile isBlank = cs.reverse := by
    rw [← List.reverse_reverse (cs.reverse.dropWhile isBlank)]
    exact congrArg List.reverse hcs
  rw [trimRight, List.reverse_cons, List.dropWhile_append, hdrop]
  cases cs with
  | nil => simp [hc]
  | cons d cs => simp

/-- A trimmed text starts with no blank. -/
theorem trimLeft_trim (cs : List Char) : trimLeft (trim cs) = trim cs := by
  have hprefix : trim cs <+: trimLeft cs := by
    rw [trim, trimRight, ← List.reverse_suffix, List.reverse_reverse]
    exact List.dropWhile_suffix _
  obtain ⟨rest, hrest⟩ := hprefix
  cases htrim : trim cs with
  | nil => rfl
  | cons c trimmed =>
    rw [htrim, List.cons_append, trimLeft] at hrest
    have hc := List.head?_dropWhile_not isBlank cs
    rw [← hrest, List.head?_cons] at hc
    exact List.dropWhile_cons_of_neg (by simpa using hc)

theorem trim_cons_trim {c : Char} (hc : isBlank c = false) (cs : List Char) :
    trim (c :: trim cs) = c :: trim cs := by
  rw [trim, trimLeft, List.dropWhile_cons_of_neg (by simp [hc])]
  exact trimRight_cons hc (trimRight_trimRight _)

end RecordSieve.Text
