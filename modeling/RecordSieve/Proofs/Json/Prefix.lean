/-
RecordSieve.Proofs.Json.Prefix — a value is read alike whatever follows it.

The reader takes a value off the front of a text and leaves the rest.
Only a number could go on into what follows, so the one condition is that
what follows starts with nothing that a number goes on with
(`EndsNumber`): a comma, a bracket, white space and the end of the text
all will do.  Then neither the value nor what is left of its own text
depends on what follows (`value?_append`), and more fuel changes nothing.
So texts that are values can be put together to the text of an array of
these values (`readToDepth?_array`).
-/
import Mathlib.Data.List.DropRight
import Mathlib.Data.List.Forall2
import RecordSieve.Json.Reader

namespace RecordSieve.Json

open RecordSieve.Decimal

/-- A number does not go on with this text. -/
def EndsNumber (tail : List Char) : Prop :=
  ∀ c ∈ tail.head?, isAsciiDigit c = false ∧ c ∉ ['.', 'e', 'E', '+', '-']

variable {c : Char} {cs tail : List Char}

theorem endsNumber_nil : EndsNumber [] := nofun

theorem endsNumber_cons :
    EndsNumber (c :: cs) ↔ isAsciiDigit c = false ∧ c ∉ ['.', 'e', 'E', '+', '-'] := by
  simp [EndsNumber]

/-! ## Numbers -/

namespace Numeral

theorem takeWhile_digits_append (htail : EndsNumber tail) (cs : List Char) :
    (cs ++ tail).takeWhile isAsciiDigit = cs.takeWhile isAsciiDigit := by
  induction cs with
  | nil =>
    cases tail with
    | nil => rfl
    | cons c tail => exact List.takeWhile_cons_of_neg (by simp [(endsNumber_cons.mp htail).1])
  | cons c cs ih => simp only [List.cons_append, List.takeWhile_cons, ih]

theorem dropWhile_digits_append (htail : EndsNumber tail) (cs : List Char) :
    (cs ++ tail).dropWhile isAsciiDigit = cs.dropWhile isAsciiDigit ++ tail := by
  induction cs with
  | nil =>
    cases tail with
    | nil => rfl
    | cons c tail => exact List.dropWhile_cons_of_neg (by simp [(endsNumber_cons.mp htail).1])
  | cons c cs ih =>
    simp only [List.cons_append, List.dropWhile_cons, ih]
    split <;> rfl

theorem absorb_append (htail : EndsNumber tail) (significand : Nat) (cs : List Char) :
    absorb significand (cs ++ tail) =
      ((absorb significand cs).1, (absorb significand cs).2.1,
        (absorb significand cs).2.2 ++ tail) := by
  induction cs generalizing significand with
  | nil =>
    cases tail with
    | nil => rfl
    | cons c tail => simp [absorb, (endsNumber_cons.mp htail).1]
  | cons c cs ih =>
    rw [List.cons_append, absorb, absorb]
    split
    · rw [ih]
    · rfl

theorem fractionPart?_append (htail : EndsNumber tail) (significand : Nat) (cs : List Char) :
    fractionPart? significand (cs ++ tail) =
      (fractionPart? significand cs).map fun (s, places, there, rest) =>
        (s, places, there, rest ++ tail) := by
  rcases cs with _ | ⟨c, cs⟩
  · have hpoint : ∀ ds, tail ≠ '.' :: ds := by
      rintro ds rfl
      simp [endsNumber_cons] at htail
    rw [List.nil_append, fractionPart?, fractionPart?] <;> simp_all
  · by_cases hc : c = '.'
    · subst hc
      simp only [List.cons_append, fractionPart?, takeWhile_digits_append htail]
      split
      · rfl
      · rw [absorb_append htail]
        simp [dropWhile_digits_append htail]
    · rw [List.cons_append, fractionPart?, fractionPart?] <;> simp_all

theorem splitSign_append (hcs : cs ≠ []) (tail : List Char) :
    splitSign (cs ++ tail) = ((splitSign cs).1, (splitSign cs).2 ++ tail) := by
  obtain ⟨c, cs, rfl⟩ := List.exists_cons_of_ne_nil hcs
  by_cases hminus : c = '-'
  · subst hminus
    rfl
  · by_cases hplus : c = '+'
    · subst hplus
      rfl
    · simp [splitSign, hminus, hplus]

theorem exponentPart?_append (htail : EndsNumber tail) {cs rest : List Char} {e : Int}
    {there : Bool} (h : exponentPart? cs = some (e, there, rest)) :
    exponentPart? (cs ++ tail) = some (e, there, rest ++ tail) := by
  cases cs with
  | nil =>
    cases h
    cases tail with
    | nil => rfl
    | cons c tail =>
      have hc := (endsNumber_cons.mp htail).2
      simp only [List.mem_cons, not_or] at hc
      simp [exponentPart?, hc]
  | cons c cs =>
    rw [exponentPart?] at h
    rw [List.cons_append, exponentPart?]
    split at h
    · next hmark =>
      have hcs : cs ≠ [] := by
        rintro rfl
        cases h
      rw [if_pos hmark, splitSign_append hcs]
      rcases hsign : splitSign cs with ⟨negative, ds⟩
      rw [hsign] at h
      simp only [takeWhile_digits_append htail, dropWhile_digits_append htail]
      obtain ⟨n, hn, heq⟩ := Option.map_eq_some_iff.mp h
      cases heq
      rw [hn]
      rfl
    · next hmark =>
      cases h
      rw [if_neg hmark]
      rfl

/-- A number is read part by part: digits, an optional fraction and an
optional exponent, of which its value is made. -/
theorem unsigned?_eq_some_iff {negative : Bool} {n : JsonNumber} {rest : List Char} :
    unsigned? negative cs = some (n, rest) ↔
      ((cs.takeWhile isAsciiDigit).isEmpty || ((cs.takeWhile isAsciiDigit).head? == some '0' &&
        (cs.takeWhile isAsciiDigit).length > 1)) = false ∧
      ∃ s places hasFraction afterFraction e hasExponent,
        fractionPart? (absorb 0 cs).1 ((absorb 0 cs).2.2.dropWhile isAsciiDigit) =
          some (s, places, hasFraction, afterFraction) ∧
        exponentPart? afterFraction = some (e, hasExponent, rest) ∧
        (if ((absorb 0 cs).2.2.takeWhile isAsciiDigit).length == 0 && !hasFraction && !hasExponent
          then wholeNumber negative s
          else (toDouble negative s
            (((absorb 0 cs).2.2.takeWhile isAsciiDigit).length - places + e)).map .double) =
          some n := by
  simp only [unsigned?]
  split
  · next hwhole => simp [hwhole]
  · next hwhole =>
    rw [Bool.not_eq_true] at hwhole
    simp only [hwhole, true_and, Option.bind_eq_bind, Option.bind_eq_some_iff, Prod.exists]
    constructor
    · rintro ⟨s, places, hasFraction, afterFraction, hfraction, e, hasExponent, afterExponent,
        hexponent, h⟩
      refine ⟨s, places, hasFraction, afterFraction, e, hasExponent, hfraction, ?_⟩
      split at h
      all_goals
        next hplain =>
        obtain ⟨m, hm, heq⟩ := Option.bind_eq_some_iff.mp h
        cases heq
        exact ⟨hexponent, by simp [hplain, hm]⟩
    · rintro ⟨s, places, hasFraction, afterFraction, e, hasExponent, hfraction, hexponent, hn⟩
      refine ⟨s, places, hasFraction, afterFraction, hfraction, e, hasExponent, rest, hexponent, ?_⟩
      split at hn
      all_goals
        next hplain =>
        simp [hplain, hn]

/-- What a number reads does not depend on what follows, and the rest
keeps what follows at its end. -/
theorem unsigned?_append (htail : EndsNumber tail) {negative : Bool} {n : JsonNumber}
    {cs rest : List Char} (h : unsigned? negative cs = some (n, rest)) :
    unsigned? negative (cs ++ tail) = some (n, rest ++ tail) := by
  obtain ⟨hwhole, s, places, hasFraction, afterFraction, e, hasExponent, hfraction, hexponent, hn⟩ :=
    unsigned?_eq_some_iff.mp h
  rw [unsigned?_eq_some_iff, takeWhile_digits_append htail, absorb_append htail,
    dropWhile_digits_append htail, takeWhile_digits_append htail, fractionPart?_append htail,
    hfraction]
  exact ⟨hwhole, s, places, hasFraction, afterFraction ++ tail, e, hasExponent, rfl,
    exponentPart?_append htail hexponent, hn⟩

theorem read?_append (htail : EndsNumber tail) {n : JsonNumber}
    {cs rest : List Char} (h : read? cs = some (n, rest)) :
    read? (cs ++ tail) = some (n, rest ++ tail) := by
  cases cs with
  | nil => cases h
  | cons c cs =>
    by_cases hc : c = '-'
    · subst hc
      exact unsigned?_append htail h
    · rw [read?] at h
      · rw [List.cons_append, read?]
        · exact unsigned?_append htail h
        · simp [hc]
      · simp [hc]

end Numeral

/-! ## Strings and words -/

namespace Reader

open RecordSieve.Text

variable {rest : List Char}

theorem skipSpace_append (h : skipSpace cs = c :: rest) (tail : List Char) :
    skipSpace (cs ++ tail) = c :: (rest ++ tail) := by
  have hdrop : cs.dropWhile isSpace = c :: rest := h
  rw [skipSpace, List.dropWhile_append, hdrop]
  rfl

theorem skipSpace_skipSpace (cs : List Char) : skipSpace (skipSpace cs) = skipSpace cs :=
  List.dropWhile_idempotent isSpace cs

theorem withChar_append {x y : Option (List Char × List Char)} {s : List Char}
    (h : withChar c x = some (s, rest))
    (hxy : ∀ s', x = some (s', rest) → y = some (s', rest ++ tail)) :
    withChar c y = some (s, rest ++ tail) := by
  obtain ⟨⟨s', rest'⟩, hx, heq⟩ := Option.map_eq_some_iff.mp h
  cases heq
  rw [hxy s' hx]
  rfl

theorem stringTail?_append {s : List Char} (h : stringTail? cs = some (s, rest))
    (tail : List Char) : stringTail? (cs ++ tail) = some (s, rest ++ tail) := by
  fun_induction stringTail? cs generalizing s with
  | case1 | case3 | case4 | case6 | case7 | case8 | case11 | case12 => cases h
  | case2 after =>
    cases h
    rfl
  | case5 a b c d n hn hlow hhigh e f g g' after m hm hm' ih =>
    simp only [List.cons_append, stringTail?, hn, hm, if_neg hlow, if_pos hhigh, if_pos hm']
    exact withChar_append h fun s' => ih
  | case9 a b c d after n hn hlow hhigh ih =>
    simp only [List.cons_append, stringTail?, hn, if_neg hlow, if_neg hhigh]
    exact withChar_append h fun s' => ih
  | case10 c after hlong e he ih =>
    have hc : c ≠ 'u' := by
      rintro rfl
      cases he
    rw [List.cons_append, List.cons_append, stringTail?, he]
    · exact withChar_append h fun s' => ih
    · simp [hc]
  | case13 c after hquote hlong hescape hcontrol ih =>
    have hc : c ≠ '\\' := by
      rintro rfl
      cases after with
      | nil => cases h
      | cons d after => exact hescape d after rfl rfl
    rw [List.cons_append, stringTail?, if_neg hcontrol]
    · exact withChar_append h fun s' => ih
    · exact hquote
    · simp [hc]
    · simp [hc]

theorem word?_append {word : List Char} {named value : Json}
    (h : (word? word cs).map (fun rest => (named, rest)) = some (value, rest)) (tail : List Char) :
    (word? word (cs ++ tail)).map (fun rest => (named, rest)) = some (value, rest ++ tail) := by
  obtain ⟨rest', hrest, heq⟩ := Option.map_eq_some_iff.mp h
  cases heq
  rw [word?] at hrest ⊢
  split at hrest
  · next hword =>
    cases hrest
    obtain ⟨rest, rfl⟩ := List.isPrefixOf_iff_prefix.mp hword
    simp
  · cases hrest

/-! ## Values without levels -/

/-- Reads a value that is no array and no object. -/
def scalar? : List Char → Option (Json × List Char)
  | '"' :: cs => (stringTail? cs).map fun (s, rest) => (string (String.ofList s), rest)
  | 'n' :: cs => (word? "ull".toList cs).map fun rest => (null, rest)
  | 't' :: cs => (word? "rue".toList cs).map fun rest => (bool true, rest)
  | 'f' :: cs => (word? "alse".toList cs).map fun rest => (bool false, rest)
  | cs => (Numeral.read? cs).map fun (n, rest) => (number n, rest)

theorem value?_eq_scalar? {body : List Char} (hcs : skipSpace cs = c :: body)
    (hc : c ∉ ['[', '{']) (fuel depth : Nat) :
    value? (fuel + 1) depth cs = scalar? (c :: body) := by
  simp only [List.mem_cons, List.not_mem_nil, or_false, not_or] at hc
  simp only [value?, hcs]
  split
  · next heq => cases heq; rfl
  · next heq => exact absurd (List.cons.inj heq).1 hc.1
  · next heq => exact absurd (List.cons.inj heq).1 hc.2
  · next heq => cases heq; rfl
  · next heq => cases heq; rfl
  · next heq => cases heq; rfl
  · next hquote _ _ hnull htrue hfalse => rw [scalar?] <;> assumption

theorem value?_congr {ds : List Char} (h : skipSpace cs = skipSpace ds) (fuel depth : Nat) :
    value? fuel depth cs = value? fuel depth ds := by
  cases fuel with
  | zero => rfl
  | succ fuel => simp only [value?, h]

theorem value?_of_skipSpace_eq_nil (hcs : skipSpace cs = []) (fuel depth : Nat) :
    value? fuel depth cs = none := by
  cases fuel with
  | zero => rfl
  | succ fuel => simp only [value?, hcs, Numeral.read?]; rfl

theorem scalar?_append {value : Json} (htail : EndsNumber tail)
    (h : scalar? cs = some (value, rest)) : scalar? (cs ++ tail) = some (value, rest ++ tail) := by
  unfold scalar? at h
  split at h
  · next body =>
    obtain ⟨⟨s, rest'⟩, hs, heq⟩ := Option.map_eq_some_iff.mp h
    cases heq
    simp [scalar?, stringTail?_append hs]
  · next body =>
    rw [List.cons_append, scalar?]
    exact word?_append h tail
  · next body =>
    rw [List.cons_append, scalar?]
    exact word?_append h tail
  · next body =>
    rw [List.cons_append, scalar?]
    exact word?_append h tail
  · next hquote hnull htrue hfalse =>
    obtain ⟨⟨n, rest'⟩, hn, heq⟩ := Option.map_eq_some_iff.mp h
    cases heq
    cases cs with
    | nil => cases hn
    | cons c cs =>
      have hread := Numeral.read?_append htail hn
      rw [List.cons_append] at hread ⊢
      rw [scalar?, hread]
      · rfl
      all_goals simp_all

/-! ## Values -/

theorem items?_of_value?_eq_none {depth : Nat} (h : ∀ fuel, value? fuel depth cs = none)
    (fuel : Nat) : items? fuel depth cs = none := by
  cases fuel with
  | zero => rfl
  | succ fuel =>
    rw [items?, h]
    rfl

theorem items?_nil (fuel depth : Nat) : items? fuel depth [] = none :=
  items?_of_value?_eq_none (value?_of_skipSpace_eq_nil rfl · depth) fuel

theorem items?_congr {ds : List Char} (h : skipSpace cs = skipSpace ds) (fuel depth : Nat) :
    items? fuel depth cs = items? fuel depth ds := by
  cases fuel with
  | zero => rfl
  | succ fuel => rw [items?, items?, value?_congr h]

/-- Items start with something, and not with the end of their array. -/
theorem exists_cons_of_items? {fuel depth : Nat} {items : List Json}
    (h : items? fuel depth cs = some (items, rest)) :
    ∃ first more, skipSpace cs = first :: more ∧ first ≠ ']' := by
  rcases hcs : skipSpace cs with _ | ⟨first, more⟩
  · rw [items?_of_value?_eq_none (value?_of_skipSpace_eq_nil hcs · depth)] at h
    cases h
  · refine ⟨first, more, rfl, ?_⟩
    rintro rfl
    have hnone (fuel : Nat) : value? fuel depth cs = none := by
      cases fuel with
      | zero => rfl
      | succ fuel =>
        rw [value?_eq_scalar? hcs (by decide)]
        rfl
    rw [items?_of_value?_eq_none hnone] at h
    cases h

theorem members?_nil (fuel depth : Nat) : members? fuel depth [] = none := by
  cases fuel with
  | zero => rfl
  | succ fuel => rw [members?, skipSpace, List.dropWhile_nil]

theorem items?_eq_some_iff {fuel depth : Nat} {items : List Json} :
    items? (fuel + 1) depth cs = some (items, rest) ↔
      ∃ item middle, value? fuel depth cs = some (item, middle) ∧
        (skipSpace middle = ']' :: rest ∧ [item] = items ∨
          ∃ more others, skipSpace middle = ',' :: more ∧
            items? fuel depth more = some (others, rest) ∧ item :: others = items) := by
  rw [items?, Option.bind_eq_bind, Option.bind_eq_some_iff, Prod.exists]
  refine exists_congr fun item => exists_congr fun middle => and_congr_right fun _ => ?_
  dsimp only
  split
  · next closed hmiddle => simp [hmiddle, and_comm]
  · next more hmiddle => simp [hmiddle, Option.bind_eq_some_iff]
  · next hclosed hmore =>
    refine iff_of_false nofun ?_
    rintro (⟨hmiddle, -⟩ | ⟨more, others, hmiddle, -⟩)
    · exact hclosed _ hmiddle
    · exact hmore _ hmiddle

theorem members?_eq_some_iff {fuel depth : Nat} {members : List (String × Json)} :
    members? (fuel + 1) depth cs = some (members, rest) ↔
      ∃ opened key afterKey colon item middle, skipSpace cs = '"' :: opened ∧
        stringTail? opened = some (key, afterKey) ∧ skipSpace afterKey = ':' :: colon ∧
        value? fuel depth colon = some (item, middle) ∧
        (skipSpace middle = '}' :: rest ∧ [(String.ofList key, item)] = members ∨
          ∃ more others, skipSpace middle = ',' :: more ∧
            members? fuel depth more = some (others, rest) ∧
            (String.ofList key, item) :: others = members) := by
  rw [members?]
  split
  · next opened hopened =>
    simp only [hopened, List.cons.injEq, true_and, exists_and_left, exists_eq_left',
      Option.bind_eq_bind, Option.bind_eq_some_iff, Prod.exists]
    refine exists_congr fun key => exists_congr fun afterKey => and_congr_right fun _ => ?_
    split
    · next colon hcolon =>
      simp only [hcolon, List.cons.injEq, true_and, exists_eq_left', Option.bind_eq_some_iff,
        Prod.exists]
      refine exists_congr fun item => exists_congr fun middle => and_congr_right fun _ => ?_
      split
      · next closed hmiddle => simp [hmiddle, and_comm]
      · next more hmiddle => simp [hmiddle, Option.bind_eq_some_iff]
      · next hclosed hmore =>
        refine iff_of_false nofun ?_
        rintro (⟨hmiddle, -⟩ | ⟨more, hmiddle, -⟩)
        · exact hclosed _ hmiddle
        · exact hmore _ hmiddle
    · next hcolon =>
      refine iff_of_false nofun ?_
      rintro ⟨colon, h, -⟩
      exact hcolon _ h
  · next hopened =>
    refine iff_of_false nofun ?_
    rintro ⟨opened, key, afterKey, colon, item, middle, h, -⟩
    exact hopened _ h

/-- An array is read only where one more level is left, and its items a
level deeper. -/
theorem value?_array_eq_some_iff {fuel depth : Nat} {body : List Char} {value : Json}
    (hcs : skipSpace cs = '[' :: body) :
    value? (fuel + 1) depth cs = some (value, rest) ↔
      ∃ inner, depth = inner + 1 ∧
        (skipSpace body = ']' :: rest ∧ .array [] = value ∨
          ∃ first more items, skipSpace body = first :: more ∧ first ≠ ']' ∧
            items? fuel inner (first :: more) = some (items, rest) ∧ .array items = value) := by
  simp only [value?, hcs]
  split
  · simp
  · next inner closed hbody => simp [hbody, and_comm]
  · next inner hbody =>
    rcases hskip : skipSpace body with _ | ⟨first, more⟩
    · simp [items?_nil]
    · have hfirst : first ≠ ']' := fun h => hbody more (h ▸ hskip)
      simp [hfirst, and_assoc]

/-- An object is read like an array, with members for items. -/
theorem value?_object_eq_some_iff {fuel depth : Nat} {body : List Char} {value : Json}
    (hcs : skipSpace cs = '{' :: body) :
    value? (fuel + 1) depth cs = some (value, rest) ↔
      ∃ inner, depth = inner + 1 ∧
        (skipSpace body = '}' :: rest ∧ .object [] = value ∨
          ∃ first more members, skipSpace body = first :: more ∧ first ≠ '}' ∧
            members? fuel inner (first :: more) = some (members, rest) ∧
              ofMembers members = value) := by
  simp only [value?, hcs]
  split
  · simp
  · next inner closed hbody => simp [hbody, and_comm]
  · next inner hbody =>
    rcases hskip : skipSpace body with _ | ⟨first, more⟩
    · simp [members?_nil]
    · have hfirst : first ≠ '}' := fun h => hbody more (h ▸ hskip)
      simp [hfirst, and_assoc]

mutual

/-- A value is read alike with more behind it, and with more fuel. -/
theorem value?_append {fuel fuel' depth : Nat} {cs rest : List Char} {value : Json}
    (htail : EndsNumber tail) (hfuel : fuel ≤ fuel')
    (h : value? fuel depth cs = some (value, rest)) :
    value? fuel' depth (cs ++ tail) = some (value, rest ++ tail) := by
  match fuel, fuel', hfuel with
  | 0, _, _ => cases h
  | fuel + 1, fuel' + 1, hfuel =>
    have hfuel := Nat.le_of_succ_le_succ hfuel
    rcases hcs : skipSpace cs with _ | ⟨c, body⟩
    · rw [value?_of_skipSpace_eq_nil hcs] at h
      cases h
    have hlong := skipSpace_append hcs tail
    by_cases harray : c = '['
    · subst harray
      obtain ⟨inner, rfl, ⟨hbody, rfl⟩ | ⟨first, more, items, hbody, hfirst, hitems, rfl⟩⟩ :=
        (value?_array_eq_some_iff hcs).mp h
      · exact (value?_array_eq_some_iff hlong).mpr
          ⟨inner, rfl, .inl ⟨skipSpace_append hbody tail, rfl⟩⟩
      · exact (value?_array_eq_some_iff hlong).mpr ⟨inner, rfl, .inr ⟨first, more ++ tail, items,
          skipSpace_append hbody tail, hfirst, items?_append htail hfuel hitems, rfl⟩⟩
    by_cases hobject : c = '{'
    · subst hobject
      obtain ⟨inner, rfl, ⟨hbody, rfl⟩ | ⟨first, more, members, hbody, hfirst, hmembers, rfl⟩⟩ :=
        (value?_object_eq_some_iff hcs).mp h
      · exact (value?_object_eq_some_iff hlong).mpr
          ⟨inner, rfl, .inl ⟨skipSpace_append hbody tail, rfl⟩⟩
      · exact (value?_object_eq_some_iff hlong).mpr ⟨inner, rfl, .inr ⟨first, more ++ tail, members,
          skipSpace_append hbody tail, hfirst, members?_append htail hfuel hmembers, rfl⟩⟩
    have hc : c ∉ ['[', '{'] := by simp [harray, hobject]
    rw [value?_eq_scalar? hcs hc] at h
    rw [value?_eq_scalar? hlong hc]
    exact scalar?_append htail h

theorem items?_append {fuel fuel' depth : Nat} {cs rest : List Char} {items : List Json}
    (htail : EndsNumber tail) (hfuel : fuel ≤ fuel')
    (h : items? fuel depth cs = some (items, rest)) :
    items? fuel' depth (cs ++ tail) = some (items, rest ++ tail) := by
  match fuel, fuel', hfuel with
  | 0, _, _ => cases h
  | fuel + 1, fuel' + 1, hfuel =>
    have hfuel := Nat.le_of_succ_le_succ hfuel
    obtain ⟨item, middle, hitem, hend⟩ := items?_eq_some_iff.mp h
    refine items?_eq_some_iff.mpr ⟨item, middle ++ tail, value?_append htail hfuel hitem, ?_⟩
    obtain ⟨hmiddle, rfl⟩ | ⟨more, others, hmiddle, hothers, rfl⟩ := hend
    · exact .inl ⟨skipSpace_append hmiddle tail, rfl⟩
    · exact .inr ⟨more ++ tail, others, skipSpace_append hmiddle tail,
        items?_append htail hfuel hothers, rfl⟩

theorem members?_append {fuel fuel' depth : Nat} {cs rest : List Char}
    {members : List (String × Json)} (htail : EndsNumber tail) (hfuel : fuel ≤ fuel')
    (h : members? fuel depth cs = some (members, rest)) :
    members? fuel' depth (cs ++ tail) = some (members, rest ++ tail) := by
  match fuel, fuel', hfuel with
  | 0, _, _ => cases h
  | fuel + 1, fuel' + 1, hfuel =>
    have hfuel := Nat.le_of_succ_le_succ hfuel
    obtain ⟨opened, key, afterKey, colon, item, middle, hopened, hkey, hcolon, hitem, hend⟩ :=
      members?_eq_some_iff.mp h
    refine members?_eq_some_iff.mpr ⟨opened ++ tail, key, afterKey ++ tail, colon ++ tail, item,
      middle ++ tail, skipSpace_append hopened tail, stringTail?_append hkey tail,
      skipSpace_append hcolon tail, value?_append htail hfuel hitem, ?_⟩
    obtain ⟨hmiddle, rfl⟩ | ⟨more, others, hmiddle, hothers, rfl⟩ := hend
    · exact .inl ⟨skipSpace_append hmiddle tail, rfl⟩
    · exact .inr ⟨more ++ tail, others, skipSpace_append hmiddle tail,
        members?_append htail hfuel hothers, rfl⟩

end

end Reader

/-! ## Whole texts -/

section

open Reader

variable {levels : Nat} {value : Json}

theorem readToDepth?_eq_some_iff :
    readToDepth? levels cs = some value ↔
      ∃ rest, value? (2 * cs.length + 2) levels cs = some (value, rest) ∧ skipSpace rest = [] := by
  simp only [readToDepth?, Option.bind_eq_bind, Option.bind_eq_some_iff, Prod.exists]
  constructor
  · rintro ⟨result, rest, hread, h⟩
    split at h
    · next hrest =>
      cases h
      exact ⟨rest, hread, List.isEmpty_iff.mp hrest⟩
    · cases h
  · rintro ⟨rest, hread, hrest⟩
    exact ⟨value, rest, hread, by simp [hrest]⟩

theorem skipSpace_space_append (h : cs.all isSpace = true) (ds : List Char) :
    skipSpace (cs ++ ds) = skipSpace ds :=
  List.dropWhile_append_of_pos (List.all_eq_true.mp h)

theorem skipSpace_eq_nil_iff : skipSpace cs = [] ↔ cs.all isSpace = true := by
  rw [skipSpace, List.dropWhile_eq_nil_iff, List.all_eq_true]

theorem endsNumber_space (h : cs.all isSpace = true) : EndsNumber cs := by
  intro c hc
  have hspace : isSpace c = true := List.all_eq_true.mp h c (List.mem_of_mem_head? hc)
  simp only [isSpace, Bool.or_eq_true, beq_iff_eq] at hspace
  obtain ((rfl | rfl) | rfl) | rfl := hspace <;> decide

/-- White space around a text changes nothing. -/
theorem readToDepth?_pad {before after : List Char} (hbefore : before.all isSpace = true)
    (hafter : after.all isSpace = true) (h : readToDepth? levels cs = some value) :
    readToDepth? levels (before ++ cs ++ after) = some value := by
  obtain ⟨rest, hread, hrest⟩ := readToDepth?_eq_some_iff.mp h
  refine readToDepth?_eq_some_iff.mpr ⟨rest ++ after, ?_, ?_⟩
  · rw [List.append_assoc, value?_congr (skipSpace_space_append hbefore _)]
    exact value?_append (endsNumber_space hafter) (by simp; omega) hread
  · rw [skipSpace_space_append (skipSpace_eq_nil_iff.mp hrest)]
    exact skipSpace_eq_nil_iff.mpr hafter

/-- Texts that are read as values are read as the items of an array, with
commas between them. -/
theorem items?_intercalate {texts : List (List Char)} {values : List Json} {fuel : Nat}
    (htexts : List.Forall₂ (fun text value => readToDepth? levels text = some value) texts values)
    (hne : texts ≠ []) (tail : List Char)
    (hfuel : 2 * ([','].intercalate texts ++ ']' :: tail).length + 1 ≤ fuel) :
    items? fuel levels ([','].intercalate texts ++ ']' :: tail) = some (values, tail) := by
  induction htexts generalizing fuel with
  | nil => exact absurd rfl hne
  | @cons text value texts values htext htexts ih =>
    obtain ⟨fuel, rfl⟩ := Nat.exists_eq_add_of_le' (Nat.le_of_add_left_le hfuel)
    obtain ⟨rest, hread, hrest⟩ := readToDepth?_eq_some_iff.mp htext
    have hskip cs : skipSpace (rest ++ cs) = skipSpace cs :=
      skipSpace_space_append (skipSpace_eq_nil_iff.mp hrest) cs
    rw [items?_eq_some_iff]
    cases htexts with
    | nil =>
      rw [List.intercalate_singleton] at hfuel ⊢
      have hbracket : EndsNumber (']' :: tail) := endsNumber_cons.mpr (by decide)
      refine ⟨value, rest ++ ']' :: tail, value?_append hbracket ?_ hread, .inl ⟨?_, rfl⟩⟩
      · simp only [List.length_append, List.length_cons] at hfuel
        omega
      · rw [hskip]
        rfl
    | @cons next value' texts values' hnext htexts =>
      have hcomma (cs : List Char) : EndsNumber (',' :: cs) := endsNumber_cons.mpr (by decide)
      rw [List.intercalate_cons_cons, List.append_assoc, List.append_assoc] at hfuel ⊢
      simp only [List.length_append, List.length_cons, List.length_nil] at hfuel
      refine ⟨value, _, value?_append (hcomma _) (by omega) hread, .inr ⟨_, _, hskip _,
        ih (by simp) ?_, rfl⟩⟩
      simp only [List.length_append, List.length_cons]
      omega

/-- Texts with commas between them, and brackets around, are read as an
array of what they are read as; its items have a level less. -/
theorem readToDepth?_array {texts : List (List Char)} {values : List Json}
    {gap ending : List Char} (hgap : gap.all isSpace = true) (hending : ending.all isSpace = true)
    (htexts : List.Forall₂ (fun text value => readToDepth? levels text = some value) texts values) :
    readToDepth? (levels + 1) ('[' :: (gap ++ ([','].intercalate texts ++ ']' :: ending))) =
      some (array values) := by
  have hopened (cs : List Char) : skipSpace ('[' :: cs) = '[' :: cs := rfl
  have hskip := skipSpace_space_append hgap ([','].intercalate texts ++ ']' :: ending)
  refine readToDepth?_eq_some_iff.mpr ⟨ending, ?_, skipSpace_eq_nil_iff.mpr hending⟩
  refine (value?_array_eq_some_iff (hopened _)).mpr ⟨levels, rfl, ?_⟩
  rcases eq_or_ne texts [] with rfl | hne
  · cases htexts
    exact .inl ⟨hskip, rfl⟩
  · have hfuel : 2 * ([','].intercalate texts ++ ']' :: ending).length + 1 ≤
        2 * ('[' :: (gap ++ ([','].intercalate texts ++ ']' :: ending))).length + 1 := by
      simp only [List.length_cons, List.length_append]
      omega
    have hitems := items?_intercalate htexts hne ending hfuel
    obtain ⟨first, more, hbody, hfirst⟩ := exists_cons_of_items? hitems
    rw [items?_congr (skipSpace_skipSpace _).symm, hbody] at hitems
    exact .inr ⟨first, more, values, hskip.trans hbody, hfirst, hitems, rfl⟩

end

end RecordSieve.Json
