/-
RecordSieve.Text.Size — the size of a text in bytes of UTF-8, and
cutting a text two bytes before its end.
-/

namespace RecordSieve.Text

/-- The number of bytes that a text takes in UTF-8. -/
def byteLength : List Char → Nat
  | [] => 0
  | c :: cs => c.utf8Size + byteLength cs

/-- A text cut two bytes before its end, if a character ends there. -/
def cutTwoBytes? (cs : List Char) : Option (List Char × List Char) :=
  match cs.reverse with
  | c :: rest =>
    if c.utf8Size == 2 then some (rest.reverse, [c])
    else
      match rest with
      | d :: rest =>
        if c.utf8Size == 1 && d.utf8Size == 1 then some (rest.reverse, [d, c]) else none
      | [] => none
  | [] => none

theorem append_of_cutTwoBytes? {cs front back : List Char}
    (h : cutTwoBytes? cs = some (front, back)) : front ++ back = cs := by
  have hcs : cs.reverse.reverse = cs := List.reverse_reverse cs
  unfold cutTwoBytes? at h
  split at h
  · next c rest hrev =>
    rw [hrev] at hcs
    split at h
    · simp only [Option.some.injEq, Prod.mk.injEq] at h
      obtain ⟨rfl, rfl⟩ := h
      simpa using hcs
    · split at h
      · next d rest' =>
        split at h
        · simp only [Option.some.injEq, Prod.mk.injEq] at h
          obtain ⟨rfl, rfl⟩ := h
          simpa using hcs
        · simp at h
      · simp at h
  · simp at h

end RecordSieve.Text
