/-
RecordSieve.Proofs.Json.Nesting — how many levels a text needs.

The reader is given a number of levels, and compact text needs as many as
the value has (`Json.depth`): what is read from it with more levels is read
with just these (`readToDepth?_compact`).  That is so although the value
that is read may be another one: where the reader ends within compact text
does not depend on what numbers it makes of their digits.
-/
import RecordSieve.Json.Writer
import RecordSieve.Proofs.Json.Prefix

namespace RecordSieve.Json

open RecordSieve.Decimal

variable {c : Char} {cs tail rest : List Char}

/-! ## Levels -/

mutual

/-- How deep arrays and objects are nested in a value. -/
def depth : Json → Nat
  | array items => depthOfItems items + 1
  | object members => depthOfMembers members + 1
  | _ => 0

/-- The depth of the deepest of some values. -/
def depthOfItems : List Json → Nat
  | [] => 0
  | item :: items => max item.depth (depthOfItems items)

/-- The depth of the deepest of the values of members. -/
def depthOfMembers : List (String × Json) → Nat
  | [] => 0
  | (_, value) :: members => max value.depth (depthOfMembers members)

end

/-! ## Numbers -/

namespace Numeral

/-- Digits, after them perhaps a fraction, and after that perhaps an exponent. -/
def IsNumeral (cs : List Char) : Prop :=
  ∃ whole fraction exponent, cs = whole ++ (fraction ++ exponent) ∧
    (whole ≠ [] ∧ whole.all isAsciiDigit = true) ∧
    (fraction = [] ∨ ∃ ds, fraction = '.' :: ds ∧ ds.all isAsciiDigit = true) ∧
    (exponent = [] ∨ ∃ sign ds, exponent = 'e' :: sign :: ds ∧ sign ∈ ['+', '-'] ∧
      ds.all isAsciiDigit = true)

theorem dropWhile_digits {ds : List Char} (hds : ds.all isAsciiDigit = true)
    (hcs : ∀ c ∈ cs.head?, isAsciiDigit c = false) : (ds ++ cs).dropWhile isAsciiDigit = cs := by
  rw [List.dropWhile_append_of_pos (List.all_eq_true.mp hds)]
  cases cs with
  | nil => rfl
  | cons c cs => exact List.dropWhile_cons_of_neg (by simp [hcs c rfl])

/-- What the significand does not take of the digits is dropped with the others. -/
theorem dropWhile_absorb (significand : Nat) (cs : List Char) :
    (absorb significand cs).2.2.dropWhile isAsciiDigit = cs.dropWhile isAsciiDigit := by
  induction cs generalizing significand with
  | nil => rfl
  | cons c cs ih =>
    rw [absorb]
    split
    · next htaken =>
      have hdigit : isAsciiDigit c = true := (Bool.and_eq_true_iff.mp htaken).1
      rw [List.dropWhile_cons_of_pos hdigit]
      exact ih _
    · rfl

theorem rest_of_fractionPart? {fraction : List Char}
    (hfraction : fraction = [] ∨ ∃ ds, fraction = '.' :: ds ∧ ds.all isAsciiDigit = true)
    (hcs : ∀ c ∈ cs.head?, isAsciiDigit c = false ∧ c ≠ '.') {significand s places : Nat}
    {there : Bool}
    (h : fractionPart? significand (fraction ++ cs) = some (s, places, there, rest)) :
    rest = cs := by
  obtain rfl | ⟨ds, rfl, hds⟩ := hfraction
  · rw [List.nil_append, fractionPart?] at h
    · cases h
      rfl
    · rintro ds rfl
      exact (hcs '.' rfl).2 rfl
  · rw [List.cons_append, fractionPart?] at h
    split at h
    · cases h
    · cases h
      rw [dropWhile_absorb]
      exact dropWhile_digits hds fun c hc => (hcs c hc).1

theorem rest_of_exponentPart? {exponent : List Char}
    (hexponent : exponent = [] ∨ ∃ sign ds, exponent = 'e' :: sign :: ds ∧ sign ∈ ['+', '-'] ∧
      ds.all isAsciiDigit = true)
    (htail : EndsNumber tail) {e : Int} {there : Bool}
    (h : exponentPart? (exponent ++ tail) = some (e, there, rest)) : rest = tail := by
  obtain rfl | ⟨sign, ds, rfl, hsign, hds⟩ := hexponent
  · have hnone : exponentPart? ([] ++ tail) = some (0, false, [] ++ tail) :=
      exponentPart?_append htail rfl
    rw [hnone] at h
    cases h
    rfl
  · obtain ⟨negative, hsplit⟩ :
        ∃ negative, splitSign (sign :: ds ++ tail) = (negative, ds ++ tail) := by
      simp only [List.mem_cons, List.not_mem_nil, or_false] at hsign
      obtain rfl | rfl := hsign
      · exact ⟨false, rfl⟩
      · exact ⟨true, rfl⟩
    rw [List.cons_append, exponentPart?, if_pos (by decide), hsplit] at h
    obtain ⟨n, -, heq⟩ := Option.map_eq_some_iff.mp h
    cases heq
    exact dropWhile_digits hds fun c hc => (htail c hc).1

/-- A numeral is read to its end. -/
theorem rest_of_unsigned? (hcs : IsNumeral cs) (htail : EndsNumber tail) {negative : Bool}
    {n : JsonNumber} (h : unsigned? negative (cs ++ tail) = some (n, rest)) : rest = tail := by
  obtain ⟨whole, fraction, exponent, rfl, ⟨-, hwhole⟩, hfraction, hexponent⟩ := hcs
  have hstops : ∀ c ∈ (exponent ++ tail).head?, isAsciiDigit c = false ∧ c ≠ '.' := by
    intro c hc
    obtain rfl | ⟨sign, ds, rfl, -⟩ := hexponent
    · obtain ⟨hdigit, hmark⟩ := htail c hc
      exact ⟨hdigit, fun h => hmark (by simp [h])⟩
    · cases hc
      decide
  have hdrop : (whole ++ (fraction ++ exponent) ++ tail).dropWhile isAsciiDigit =
      fraction ++ (exponent ++ tail) := by
    rw [List.append_assoc, List.append_assoc]
    refine dropWhile_digits hwhole fun c hc => ?_
    obtain rfl | ⟨ds, rfl, -⟩ := hfraction
    · exact (hstops c hc).1
    · cases hc
      decide
  obtain ⟨-, s, places, hasFraction, afterFraction, e, hasExponent, hafter, hend, -⟩ :=
    unsigned?_eq_some_iff.mp h
  rw [dropWhile_absorb, hdrop] at hafter
  rw [rest_of_fractionPart? hfraction hstops hafter] at hend
  exact rest_of_exponentPart? hexponent htail hend

theorem isNumeral_digits (n : Nat) : IsNumeral (digits n) :=
  ⟨digits n, [], [], by simp, ⟨digits_ne_nil n, all_isAsciiDigit_digits n⟩, .inl rfl, .inl rfl⟩

theorem all_isAsciiDigit_zeros (n : Nat) : (List.replicate n '0').all isAsciiDigit = true :=
  List.all_eq_true.mpr fun c hc => by
    rw [List.eq_of_mem_replicate hc]
    decide

theorem isNumeral_positionalText {ds : List Char} (hds : ds ≠ [])
    (hall : ds.all isAsciiDigit = true) (exponent : Int) (pointZero : Bool) :
    IsNumeral (Layout.positionalText ds exponent pointZero) := by
  have hdigit : ∀ c ∈ ds, isAsciiDigit c = true := List.all_eq_true.mp hall
  rw [Layout.positionalText]
  split
  · refine ⟨ds ++ List.replicate exponent.toNat '0', if pointZero then ['.', '0'] else [], [],
      by simp, ⟨by simp [hds], ?_⟩, ?_, .inl rfl⟩
    · rw [List.all_append, hall, all_isAsciiDigit_zeros]
      rfl
    · cases pointZero
      · exact .inl rfl
      · exact .inr ⟨['0'], rfl, by decide⟩
  · dsimp only
    split
    · next hplaces =>
      -- the point stands between the digits, with one before it at least
      refine ⟨_, _, [], by rw [List.append_nil], ⟨?_, ?_⟩, .inr ⟨_, rfl, ?_⟩, .inl rfl⟩
      · rw [ne_eq, List.take_eq_nil_iff, not_or]
        exact ⟨by omega, hds⟩
      · exact List.all_eq_true.mpr fun c hc => hdigit c (List.mem_of_mem_take hc)
      · exact List.all_eq_true.mpr fun c hc => hdigit c (List.mem_of_mem_drop hc)
    · refine ⟨['0'], '.' :: (List.replicate ((-exponent).toNat - ds.length) '0' ++ ds), [],
        by simp, ⟨by simp, by decide⟩, .inr ⟨_, rfl, ?_⟩, .inl rfl⟩
      rw [List.all_append, hall, all_isAsciiDigit_zeros]
      rfl

theorem isNumeral_exponentText {ds : List Char} (hds : ds ≠ [])
    (hall : ds.all isAsciiDigit = true) (leading : Int) :
    IsNumeral (Layout.exponentText ds leading) := by
  have hexponent : ∃ sign es, 'e' :: (if leading < 0 then '-' else '+') :: digits leading.natAbs =
      'e' :: sign :: es ∧ sign ∈ ['+', '-'] ∧ es.all isAsciiDigit = true :=
    ⟨_, _, rfl, by split <;> decide, all_isAsciiDigit_digits _⟩
  unfold Layout.exponentText
  match ds with
  | [] => exact absurd rfl hds
  | [d] => exact ⟨[d], [], _, rfl, ⟨by simp, hall⟩, .inl rfl, .inr hexponent⟩
  | d :: e :: ds =>
    rw [List.all_cons, Bool.and_eq_true] at hall
    exact ⟨[d], '.' :: e :: ds, _, rfl, ⟨by simp, by simp [hall.1]⟩, .inr ⟨_, rfl, hall.2⟩,
      .inr hexponent⟩

/-- A number is written as a numeral, perhaps with a minus sign in front. -/
theorem exists_numeral_write (n : JsonNumber) :
    ∃ cs, IsNumeral cs ∧ (n.write = cs ∨ n.write = '-' :: cs) := by
  cases n with
  | integer i hi =>
    refine ⟨digits i.natAbs, isNumeral_digits _, ?_⟩
    rw [JsonNumber.write, ofInt]
    split
    · exact .inr rfl
    · exact .inl rfl
  | double x =>
    have hne := digits_ne_nil (x.shortest JsonNumber.layout.tie).significand
    have hall := all_isAsciiDigit_digits (x.shortest JsonNumber.layout.tie).significand
    have hbody (leading exponent : Int) : IsNumeral (if JsonNumber.layout.positional leading then
        Layout.positionalText (digits (x.shortest JsonNumber.layout.tie).significand) exponent
          JsonNumber.layout.pointZero
        else Layout.exponentText (digits (x.shortest JsonNumber.layout.tie).significand) leading) := by
      split
      · exact isNumeral_positionalText hne hall _ _
      · exact isNumeral_exponentText hne hall _
    rw [JsonNumber.write, Layout.write]
    split
    · exact ⟨_, hbody _ _, .inr rfl⟩
    · exact ⟨_, hbody _ _, .inl rfl⟩

theorem IsNumeral.exists_cons (h : IsNumeral cs) :
    ∃ c ds, cs = c :: ds ∧ isAsciiDigit c = true := by
  obtain ⟨whole, fraction, exponent, rfl, ⟨hne, hall⟩, -⟩ := h
  obtain ⟨c, ds, rfl⟩ := List.exists_cons_of_ne_nil hne
  exact ⟨c, ds ++ (fraction ++ exponent), rfl, List.all_eq_true.mp hall c (by simp)⟩

/-- What is left after a written number is what follows it. -/
theorem rest_of_read?_write (htail : EndsNumber tail) {n m : JsonNumber}
    (h : read? (n.write ++ tail) = some (m, rest)) : rest = tail := by
  obtain ⟨cs, hcs, hwrite | hwrite⟩ := exists_numeral_write n
  · obtain ⟨c, ds, rfl, hc⟩ := hcs.exists_cons
    have hminus : c ≠ '-' := by
      rintro rfl
      revert hc
      decide
    rw [hwrite, List.cons_append, read?] at h
    · exact rest_of_unsigned? hcs htail h
    · simp [hminus]
  · rw [hwrite] at h
    exact rest_of_unsigned? hcs htail h

end Numeral

/-! ## Strings -/

namespace Reader

open RecordSieve.Text

theorem hex4?_control {n : Nat} (h : n < 32) :
    hex4? '0' '0' (hexChar (n / 16)) (hexChar (n % 16)) = some n := by
  have hall : ∀ n < 32, hex4? '0' '0' (hexChar (n / 16)) (hexChar (n % 16)) = some n := by decide
  exact hall n h

/-- An escaped character is read as itself. -/
theorem stringTail?_escapeChar (c : Char) (cs : List Char) :
    stringTail? (escapeChar c ++ cs) = withChar c (stringTail? cs) := by
  unfold escapeChar
  split
  case h_8 hquote hslash _ _ _ _ _ =>
    split
    · next hcontrol =>
      have hlow : isLowSurrogate c.toNat = false := by
        simp only [isLowSurrogate, Bool.and_eq_false_iff, decide_eq_false_iff_not]
        omega
      have hhigh : isHighSurrogate c.toNat = false := by
        simp only [isHighSurrogate, Bool.and_eq_false_iff, decide_eq_false_iff_not]
        omega
      simp [stringTail?, hex4?_control hcontrol, hlow, hhigh]
    · next hcontrol =>
      rw [List.singleton_append, stringTail?, if_neg hcontrol]
      · exact hquote
      · exact fun _ _ _ _ _ h => absurd h hslash
      · exact fun _ _ h => absurd h hslash
  all_goals rfl

theorem stringTail?_quote (s : String) (tail : List Char) :
    stringTail? (s.toList.flatMap escapeChar ++ '"' :: tail) = some (s.toList, tail) := by
  induction s.toList with
  | nil => rfl
  | cons c cs ih =>
    rw [List.flatMap_cons, List.append_assoc, stringTail?_escapeChar, ih]
    rfl

/-! ## Values -/

theorem skipSpace_cons (hc : isSpace c = false) (cs : List Char) : skipSpace (c :: cs) = c :: cs :=
  List.dropWhile_cons_of_neg (by simp [hc])

/-- A written number starts with a digit or a minus sign. -/
theorem exists_cons_write (n : JsonNumber) :
    ∃ c cs, n.write = c :: cs ∧ (isAsciiDigit c = true ∨ c = '-') := by
  obtain ⟨cs, hcs, hwrite | hwrite⟩ := Numeral.exists_numeral_write n
  · obtain ⟨c, ds, rfl, hc⟩ := hcs.exists_cons
    exact ⟨c, ds, hwrite, .inl hc⟩
  · exact ⟨'-', cs, hwrite, .inr rfl⟩

theorem ne_of_digitOrMinus (hc : isAsciiDigit c = true ∨ c = '-') {d : Char}
    (hd : isAsciiDigit d = false ∧ d ≠ '-') : c ≠ d := by
  rintro rfl
  rcases hc with hc | rfl
  · exact absurd hd.1 (by simp [hc])
  · exact hd.2 rfl

theorem isSpace_of_digitOrMinus (hc : isAsciiDigit c = true ∨ c = '-') : isSpace c = false := by
  simp only [isSpace, Bool.or_eq_false_iff, beq_eq_false_iff_ne]
  exact ⟨⟨⟨ne_of_digitOrMinus hc (by decide), ne_of_digitOrMinus hc (by decide)⟩,
    ne_of_digitOrMinus hc (by decide)⟩, ne_of_digitOrMinus hc (by decide)⟩

/-- Compact text starts with no white space, and not like the end of an array. -/
theorem exists_cons_compact (value : Json) :
    ∃ c cs, value.compact = c :: cs ∧ isSpace c = false ∧ c ≠ ']' := by
  match value with
  | null => exact ⟨'n', _, rfl, by decide⟩
  | bool true => exact ⟨'t', _, rfl, by decide⟩
  | bool false => exact ⟨'f', _, rfl, by decide⟩
  | number n =>
    obtain ⟨c, cs, hwrite, hc⟩ := exists_cons_write n
    exact ⟨c, cs, hwrite, isSpace_of_digitOrMinus hc, ne_of_digitOrMinus hc (by decide)⟩
  | string s => exact ⟨'"', _, rfl, by decide⟩
  | array [] => exact ⟨'[', _, rfl, by decide⟩
  | array (item :: items) => exact ⟨'[', _, rfl, by decide⟩
  | object [] => exact ⟨'{', _, rfl, by decide⟩
  | object ((key, item) :: members) => exact ⟨'{', _, rfl, by decide⟩

theorem skipSpace_compact (value : Json) (cs : List Char) :
    skipSpace (value.compact ++ cs) = value.compact ++ cs := by
  obtain ⟨c, ds, hvalue, hspace, -⟩ := exists_cons_compact value
  rw [hvalue, List.cons_append, skipSpace_cons hspace]

theorem quote_append (s : String) (cs : List Char) :
    quote s ++ cs = '"' :: (s.toList.flatMap escapeChar ++ '"' :: cs) := by
  simp [quote]

theorem skipSpace_quote (s : String) (cs : List Char) :
    skipSpace (quote s ++ cs) = quote s ++ cs := by
  rw [quote_append, skipSpace_cons (by decide)]

variable {fuel depth depth' : Nat}

theorem value?_compact_of_scalar {value result : Json} (hvalue : value.compact = c :: cs)
    (hspace : isSpace c = false) (hc : c ∉ ['[', '{'])
    (hrest : ∀ result rest, scalar? (c :: (cs ++ tail)) = some (result, rest) → rest = tail)
    (h : value? fuel depth (value.compact ++ tail) = some (result, rest)) :
    rest = tail ∧ value? fuel depth' (value.compact ++ tail) = some (result, tail) := by
  rw [hvalue, List.cons_append] at h ⊢
  cases fuel with
  | zero => cases h
  | succ fuel =>
    rw [value?_eq_scalar? (skipSpace_cons hspace _) hc] at h ⊢
    obtain rfl := hrest result rest h
    exact ⟨rfl, h⟩

theorem value?_compact_number {n : JsonNumber} {result : Json} (htail : EndsNumber tail)
    (h : value? fuel depth ((number n).compact ++ tail) = some (result, rest)) :
    rest = tail ∧ value? fuel depth' ((number n).compact ++ tail) = some (result, tail) := by
  obtain ⟨c, cs, hwrite, hc⟩ := exists_cons_write n
  have hne {d : Char} (hd : isAsciiDigit d = false ∧ d ≠ '-') : c ≠ d := ne_of_digitOrMinus hc hd
  refine value?_compact_of_scalar hwrite (isSpace_of_digitOrMinus hc) ?_ ?_ h
  · simp [hne (by decide : isAsciiDigit '[' = false ∧ '[' ≠ '-'),
      hne (by decide : isAsciiDigit '{' = false ∧ '{' ≠ '-')]
  · intro result rest hscalar
    rw [scalar?] at hscalar
    · obtain ⟨⟨m, rest'⟩, hm, heq⟩ := Option.map_eq_some_iff.mp hscalar
      cases heq
      rw [← List.cons_append, ← hwrite] at hm
      exact Numeral.rest_of_read?_write htail hm
    all_goals exact fun _ heq => absurd (List.cons.inj heq).1 (hne (by decide))

theorem exists_inner {level depth : Nat} (h : level + 1 ≤ depth) :
    ∃ inner, depth = inner + 1 ∧ level ≤ inner :=
  ⟨depth - 1, by omega, by omega⟩

theorem value?_compact_emptyArray {result : Json} (hdepth : (array []).depth ≤ depth')
    (h : value? (fuel + 1) depth ((array []).compact ++ tail) = some (result, rest)) :
    rest = tail ∧ value? (fuel + 1) depth' ((array []).compact ++ tail) = some (result, tail) := by
  have hopened : skipSpace ((array []).compact ++ tail) = '[' :: ']' :: tail := rfl
  have hclosed : skipSpace (']' :: tail) = ']' :: tail := rfl
  obtain ⟨inner', rfl, -⟩ := exists_inner hdepth
  obtain ⟨inner, rfl, hend⟩ := (value?_array_eq_some_iff hopened).mp h
  rw [hclosed] at hend
  obtain ⟨hbody, rfl⟩ | ⟨first, more, items, hbody, hfirst, -⟩ := hend
  · cases hbody
    exact ⟨rfl, (value?_array_eq_some_iff hopened).mpr ⟨inner', rfl, .inl ⟨hclosed, rfl⟩⟩⟩
  · exact absurd (List.cons.inj hbody).1.symm hfirst

theorem value?_compact_emptyObject {result : Json} (hdepth : (object []).depth ≤ depth')
    (h : value? (fuel + 1) depth ((object []).compact ++ tail) = some (result, rest)) :
    rest = tail ∧ value? (fuel + 1) depth' ((object []).compact ++ tail) = some (result, tail) := by
  have hopened : skipSpace ((object []).compact ++ tail) = '{' :: '}' :: tail := rfl
  have hclosed : skipSpace ('}' :: tail) = '}' :: tail := rfl
  obtain ⟨inner', rfl, -⟩ := exists_inner hdepth
  obtain ⟨inner, rfl, hend⟩ := (value?_object_eq_some_iff hopened).mp h
  rw [hclosed] at hend
  obtain ⟨hbody, rfl⟩ | ⟨first, more, members, hbody, hfirst, -⟩ := hend
  · cases hbody
    exact ⟨rfl, (value?_object_eq_some_iff hopened).mpr ⟨inner', rfl, .inl ⟨hclosed, rfl⟩⟩⟩
  · exact absurd (List.cons.inj hbody).1.symm hfirst

theorem skipSpace_array (item : Json) (items : List Json) (tail : List Char) :
    skipSpace ((array (item :: items)).compact ++ tail) =
      '[' :: (item.compact ++ (compactItems items ++ tail)) := by
  rw [skipSpace_compact, compact, List.cons_append, List.append_assoc]

theorem skipSpace_object (key : String) (item : Json) (members : List (String × Json))
    (tail : List Char) : skipSpace ((object ((key, item) :: members)).compact ++ tail) =
      '{' :: (quote key ++ ':' :: (item.compact ++ (compactMembers members ++ tail))) := by
  rw [skipSpace_compact, compact]
  simp

theorem skipSpace_compactItems (item : Json) (items : List Json) (tail : List Char) :
    skipSpace (compactItems (item :: items) ++ tail) =
      ',' :: (item.compact ++ (compactItems items ++ tail)) := by
  rw [compactItems, List.cons_append, List.append_assoc, skipSpace_cons (by decide)]

theorem skipSpace_compactMembers (key : String) (item : Json) (members : List (String × Json))
    (tail : List Char) : skipSpace (compactMembers ((key, item) :: members) ++ tail) =
      ',' :: (quote key ++ ':' :: (item.compact ++ (compactMembers members ++ tail))) := by
  rw [compactMembers, List.cons_append, skipSpace_cons (by decide)]
  simp

theorem endsNumber_compactItems (items : List Json) (tail : List Char) :
    EndsNumber (compactItems items ++ tail) := by
  cases items <;> simp [compactItems, endsNumber_cons] <;> decide

theorem endsNumber_compactMembers (members : List (String × Json)) (tail : List Char) :
    EndsNumber (compactMembers members ++ tail) := by
  cases members <;> simp [compactMembers, endsNumber_cons] <;> decide

mutual

/-- Compact text is read to its end, and as before with other levels if
they are enough for the value. -/
theorem value?_compact {fuel depth depth' : Nat} {value result : Json} {tail rest : List Char}
    (htail : EndsNumber tail) (hdepth : value.depth ≤ depth')
    (h : value? fuel depth (value.compact ++ tail) = some (result, rest)) :
    rest = tail ∧ value? fuel depth' (value.compact ++ tail) = some (result, tail) := by
  -- on the fuel, which is used up by items and members as well
  match fuel, value with
  | 0, _ => cases h
  | fuel + 1, .null | fuel + 1, .bool true | fuel + 1, .bool false =>
    exact value?_compact_of_scalar rfl (by decide) (by decide) (fun _ _ h => by cases h; rfl) h
  | fuel + 1, .number n => exact value?_compact_number htail h
  | fuel + 1, .string s =>
    have hquote : (string s).compact = '"' :: (s.toList.flatMap escapeChar ++ ['"']) := rfl
    refine value?_compact_of_scalar hquote (by decide) (by decide) (fun _ _ hscalar => ?_) h
    rw [scalar?, List.append_assoc, List.singleton_append, stringTail?_quote] at hscalar
    cases hscalar
    rfl
  | fuel + 1, .array [] => exact value?_compact_emptyArray hdepth h
  | fuel + 1, .object [] => exact value?_compact_emptyObject hdepth h
  | fuel + 1, .array (item :: items) =>
    have hopened := skipSpace_array item items tail
    have hskip := skipSpace_compact item (compactItems items ++ tail)
    obtain ⟨inner', rfl, hinner⟩ := exists_inner hdepth
    obtain ⟨inner, rfl, hend⟩ := (value?_array_eq_some_iff hopened).mp h
    rw [hskip] at hend
    obtain ⟨hbody, -⟩ | ⟨first, more, results, hbody, hfirst, hresults, rfl⟩ := hend
    · -- the array is not empty, and its text does not look so
      obtain ⟨c, cs, hitem, -, hc⟩ := exists_cons_compact item
      rw [hitem, List.cons_append] at hbody
      exact absurd (List.cons.inj hbody).1 hc
    · rw [← hbody] at hresults
      obtain ⟨rfl, hresults'⟩ := items?_compact hinner hresults
      rw [hbody] at hresults'
      exact ⟨rfl, (value?_array_eq_some_iff hopened).mpr ⟨inner', rfl,
        .inr ⟨first, more, results, hskip.trans hbody, hfirst, hresults', rfl⟩⟩⟩
  | fuel + 1, .object ((key, item) :: members) =>
    have hopened := skipSpace_object key item members tail
    have hskip := skipSpace_quote key (':' :: (item.compact ++ (compactMembers members ++ tail)))
    obtain ⟨inner', rfl, hinner⟩ := exists_inner hdepth
    obtain ⟨inner, rfl, hend⟩ := (value?_object_eq_some_iff hopened).mp h
    rw [hskip] at hend
    obtain ⟨hbody, -⟩ | ⟨first, more, results, hbody, hfirst, hresults, rfl⟩ := hend
    · rw [quote_append] at hbody
      cases hbody
    · rw [← hbody] at hresults
      obtain ⟨rfl, hresults'⟩ := members?_compact hinner hresults
      rw [hbody] at hresults'
      exact ⟨rfl, (value?_object_eq_some_iff hopened).mpr ⟨inner', rfl,
        .inr ⟨first, more, results, hskip.trans hbody, hfirst, hresults', rfl⟩⟩⟩

theorem items?_compact {fuel depth depth' : Nat} {item : Json} {items results : List Json}
    {tail rest : List Char} (hdepth : depthOfItems (item :: items) ≤ depth')
    (h : items? fuel depth (item.compact ++ (compactItems items ++ tail)) = some (results, rest)) :
    rest = tail ∧
      items? fuel depth' (item.compact ++ (compactItems items ++ tail)) = some (results, tail) := by
  match fuel with
  | 0 => cases h
  | fuel + 1 =>
    rw [depthOfItems, Nat.max_le] at hdepth
    obtain ⟨result, middle, hresult, hend⟩ := items?_eq_some_iff.mp h
    obtain ⟨rfl, hread⟩ := value?_compact (endsNumber_compactItems items tail) hdepth.1 hresult
    cases items with
    | nil =>
      have hskip : skipSpace (compactItems [] ++ tail) = ']' :: tail := rfl
      rw [hskip] at hend
      obtain ⟨hmiddle, rfl⟩ | ⟨more, others, hmiddle, -⟩ := hend
      · cases hmiddle
        exact ⟨rfl, items?_eq_some_iff.mpr ⟨result, _, hread, .inl ⟨hskip, rfl⟩⟩⟩
      · cases hmiddle
    | cons next items =>
      have hskip := skipSpace_compactItems next items tail
      rw [hskip] at hend
      obtain ⟨hmiddle, rfl⟩ | ⟨more, others, hmiddle, hothers, rfl⟩ := hend
      · cases hmiddle
      · cases hmiddle
        obtain ⟨rfl, hothers⟩ := items?_compact hdepth.2 hothers
        exact ⟨rfl, items?_eq_some_iff.mpr ⟨result, _, hread,
          .inr ⟨_, others, hskip, hothers, rfl⟩⟩⟩

theorem members?_compact {fuel depth depth' : Nat} {key : String} {item : Json}
    {members results : List (String × Json)} {tail rest : List Char}
    (hdepth : depthOfMembers ((key, item) :: members) ≤ depth')
    (h : members? fuel depth
      (quote key ++ ':' :: (item.compact ++ (compactMembers members ++ tail))) =
        some (results, rest)) :
    rest = tail ∧
      members? fuel depth'
        (quote key ++ ':' :: (item.compact ++ (compactMembers members ++ tail))) =
          some (results, tail) := by
  match fuel with
  | 0 => cases h
  | fuel + 1 =>
    rw [depthOfMembers, Nat.max_le] at hdepth
    have hskip := skipSpace_quote key (':' :: (item.compact ++ (compactMembers members ++ tail)))
    rw [quote_append] at hskip h ⊢
    have hquote := stringTail?_quote key (':' :: (item.compact ++ (compactMembers members ++ tail)))
    have hpoint : skipSpace (':' :: (item.compact ++ (compactMembers members ++ tail))) =
        ':' :: (item.compact ++ (compactMembers members ++ tail)) := skipSpace_cons (by decide) _
    obtain ⟨opened, key', afterKey, colon, result, middle, hopened, hkey, hcolon, hresult, hend⟩ :=
      members?_eq_some_iff.mp h
    cases hskip.symm.trans hopened
    cases hquote.symm.trans hkey
    cases hpoint.symm.trans hcolon
    obtain ⟨rfl, hread⟩ := value?_compact (endsNumber_compactMembers members tail) hdepth.1 hresult
    cases members with
    | nil =>
      have hclosed : skipSpace (compactMembers [] ++ tail) = '}' :: tail := rfl
      rw [hclosed] at hend
      obtain ⟨hmiddle, rfl⟩ | ⟨more, others, hmiddle, -⟩ := hend
      · cases hmiddle
        exact ⟨rfl, members?_eq_some_iff.mpr ⟨_, _, _, _, result, _, hskip, hquote, hpoint, hread,
          .inl ⟨hclosed, rfl⟩⟩⟩
      · cases hmiddle
    | cons next members =>
      obtain ⟨nextKey, next⟩ := next
      have hcomma := skipSpace_compactMembers nextKey next members tail
      rw [hcomma] at hend
      obtain ⟨hmiddle, rfl⟩ | ⟨more, others, hmiddle, hothers, rfl⟩ := hend
      · cases hmiddle
      · cases hmiddle
        obtain ⟨rfl, hothers'⟩ := members?_compact hdepth.2 hothers
        exact ⟨rfl, members?_eq_some_iff.mpr ⟨_, _, _, _, result, _, hskip, hquote, hpoint, hread,
          .inr ⟨_, others, hcomma, hothers', rfl⟩⟩⟩

end

end Reader

/-! ## Whole texts -/

/-- Compact text is read alike at all depths that are enough for the value. -/
theorem readToDepth?_compact {value result : Json} {levels levels' : Nat}
    (hdepth : value.depth ≤ levels')
    (h : readToDepth? levels value.compact = some result) :
    readToDepth? levels' value.compact = some result := by
  obtain ⟨rest, hread, hrest⟩ := readToDepth?_eq_some_iff.mp h
  rw [← List.append_nil value.compact] at hread
  obtain ⟨rfl, hread'⟩ := Reader.value?_compact endsNumber_nil hdepth hread
  rw [List.append_nil] at hread'
  exact readToDepth?_eq_some_iff.mpr ⟨[], hread', hrest⟩

/-- A string is read back from its text. -/
theorem ofText?_text_string (s : String) : ofText? (string s).text = some (string s) := by
  have htext : (string s).text.toList = '"' :: (s.toList.flatMap escapeChar ++ ['"']) := by
    rw [text, String.toList_ofList]
    rfl
  rw [ofText?, htext]
  refine readToDepth?_eq_some_iff.mpr ⟨[], ?_, rfl⟩
  rw [Reader.value?_eq_scalar? (Reader.skipSpace_cons (by decide) _) (by decide), Reader.scalar?,
    Reader.stringTail?_quote]
  simp

end RecordSieve.Json
