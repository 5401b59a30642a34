import Mathlib.Algebra.GroupWithZero.Nat
import Mathlib.Data.List.Basic
import SecretRotation.Text.Timestamp

/-!
# Timestamps that are written and read

The text of a timestamp has no fractions of a second. So a timestamp that is written and read is the
same up to the second, and one that has no fractions of a second is the same.

## Main definitions

* `Timestamp.wholeSeconds`: a timestamp without its fractions of a second.

## Main results

* `Timestamp.number?_digits`: the digits of a number are read as the number.
* `Timestamp.local?_chars`: what is read of a text that has been written.
* `Timestamp.ofText?_text`: a timestamp that is written and read.
-/

namespace SecretRotation.Text

/-! ### Digits -/

/-- A decimal digit is a digit, is not blank, and counts for what it is. -/
theorem digit_spec : ∀ d < 10, (Char.ofNat ('0'.toNat + d)).isDigit = true ∧
    isBlank (Char.ofNat ('0'.toNat + d)) = false ∧
      (Char.ofNat ('0'.toNat + d)).toNat - '0'.toNat = d := by
  decide

namespace Timestamp

@[simp] theorem length_digits : (width n : Nat) → (digits width n).length = width
  | 0, _ => rfl
  | width + 1, n => by rw [digits, List.length_append, length_digits, List.length_singleton]

theorem of_mem_digits {c : Char} : {width n : Nat} → c ∈ digits width n →
    c.isDigit = true ∧ isBlank c = false
  | width + 1, n, h => by
    rcases List.mem_append.1 h with h | h
    · exact of_mem_digits h
    · rw [List.mem_singleton.1 h]
      have hdigit := digit_spec _ (Nat.mod_lt n (by decide))
      exact ⟨hdigit.1, hdigit.2.1⟩

theorem decimalValue_append_singleton (digits : List Char) (c : Char) :
    decimalValue (digits ++ [c]) = 10 * decimalValue digits + (c.toNat - '0'.toNat) := by
  rw [decimalValue, List.foldl_append]
  rfl

theorem decimalValue_digits : (width n : Nat) → decimalValue (digits width n) = n % 10 ^ width
  | 0, n => (Nat.mod_one n).symm
  | width + 1, n => by
    have hdigit := (digit_spec _ (Nat.mod_lt n (by decide : 10 > 0))).2.2
    rw [digits, decimalValue_append_singleton, hdigit, decimalValue_digits, Nat.pow_succ',
      Nat.mod_mul, Nat.add_comm]

/-- No blanks stand in front of a number. -/
theorem skipBlanks_digits {width : Nat} (hwidth : 0 < width) (n : Nat) (rest : List Char) :
    skipBlanks (digits width n ++ rest) = digits width n ++ rest := by
  obtain ⟨c, cs, hcons⟩ := List.exists_cons_of_length_pos ((length_digits width n).symm ▸ hwidth)
  have hblank := (of_mem_digits (hcons ▸ List.mem_cons_self : c ∈ digits width n)).2
  rw [hcons, List.cons_append, skipBlanks, List.dropWhile_cons_of_neg (by simp [hblank])]

/-- No sign stands in front of a number. -/
theorem digits_append_ne_cons {width : Nat} (hwidth : 0 < width) (n : Nat) {c : Char}
    (hc : c.isDigit = false) (rest cs : List Char) : digits width n ++ rest ≠ c :: cs := by
  obtain ⟨d, ds, hcons⟩ := List.exists_cons_of_length_pos ((length_digits width n).symm ▸ hwidth)
  have hdigit := (of_mem_digits (hcons ▸ List.mem_cons_self : d ∈ digits width n)).1
  rw [hcons, List.cons_append]
  rintro ⟨⟩
  cases hc.symm.trans hdigit

theorem skipBlanks_cons {c : Char} (h : isBlank c = false) (rest : List Char) :
    skipBlanks (c :: rest) = c :: rest :=
  List.dropWhile_cons_of_neg (by simp [h])

/-- **The digits of a number are read as the number**, if no more digits are asked for or something
else follows. -/
theorem number?_digits {most width n : Nat} {rest : List Char} (hwidth : 0 < width)
    (hmost : width ≤ most) (hn : n < 10 ^ width)
    (hrest : width = most ∨ ∀ c ∈ rest.head?, c.isDigit = false) :
    number? most (digits width n ++ rest) = some (n, rest) := by
  have hdigits : ∀ c ∈ digits width n, c.isDigit = true := fun c hc => (of_mem_digits hc).1
  have hnext : (rest.take (most - width)).takeWhile Char.isDigit = [] := by
    rcases hrest with rfl | hrest
    · rw [Nat.sub_self, List.take_zero, List.takeWhile_nil]
    · cases most - width with
      | zero => rfl
      | succ _ =>
        cases rest with
        | nil => rfl
        | cons c cs => simp [hrest c (by simp)]
  have htaken : ((digits width n ++ rest).take most).takeWhile Char.isDigit = digits width n := by
    rw [List.take_append, length_digits, List.take_of_length_le (by simpa using hmost),
      List.takeWhile_append_of_pos hdigits, hnext, List.append_nil]
  have hne : (digits width n).isEmpty = false := by
    rw [List.isEmpty_eq_false_iff_exists_mem]
    exact List.exists_mem_of_length_pos ((length_digits width n).symm ▸ hwidth)
  simp only [number?, htaken, hne, decimalValue_digits, Nat.mod_eq_of_lt hn, List.drop_left,
    Bool.false_eq_true, if_false]

/-- Two digits are read as the number that they are. -/
theorem part?_digits {n : Nat} (hn : n < 100) (rest : List Char) :
    part? (digits 2 n ++ rest) = some (n, rest) := by
  rw [part?, skipBlanks_digits (by decide),
    number?_digits (by decide) (Nat.le_refl _) hn (.inl rfl)]

theorem after?_cons {c : Char} (h : isBlank c = false) (rest : List Char) :
    after? c (c :: rest) = some rest := by
  simp only [after?, skipBlanks_cons h, if_true]

/-! ### Dates -/

/-- The digits of a year are as many as it needs, and at least four. -/
theorem exists_yearDigits_eq {n : Nat} (hn : n < 1000000) :
    ∃ width, 4 ≤ width ∧ n < 10 ^ width ∧ yearDigits n = digits width n := by
  rw [yearDigits]
  split
  next h => exact ⟨4, (Nat.le_refl _), h, rfl⟩
  next =>
    split
    next h => exact ⟨5, by decide, h, rfl⟩
    next => exact ⟨6, by decide, hn, rfl⟩

/-- The digits of a year behind its sign are read as the year. -/
theorem number?_yearDigits {n : Nat} (hn : n < 1000000) (rest : List Char) :
    number? (yearDigits n ++ '-' :: rest).length (yearDigits n ++ '-' :: rest) =
      some (n, '-' :: rest) := by
  obtain ⟨width, hwidth, hlt, heq⟩ := exists_yearDigits_eq hn
  rw [heq]
  refine number?_digits (by omega) (by simp) hlt (.inr fun c hc => ?_)
  cases hc
  rfl

/-- A year is read as it was written. -/
theorem year?_yearText {year : Int} (hyear : -262143 ≤ year ∧ year ≤ 262142) (rest : List Char) :
    year? (yearText year ++ '-' :: rest) = some (year, '-' :: rest) := by
  rw [yearText]
  split
  next hneg =>
    have habs : -((year.natAbs : Nat) : Int) = year := by omega
    rw [List.cons_append, year?, skipBlanks_cons (by decide)]
    simp only [number?_yearDigits (by omega : year.natAbs < 1000000), Option.map_some, habs]
  next hpos =>
    have habs : ((year.natAbs : Nat) : Int) = year := by omega
    split
    next hsmall =>
      have hdigits : yearDigits year.natAbs = digits 4 year.natAbs := by
        rw [yearDigits, if_pos (by omega)]
      have hread : number? 4 (digits 4 year.natAbs ++ '-' :: rest) =
          some (year.natAbs, '-' :: rest) :=
        number?_digits (by decide) (Nat.le_refl _) (by omega) (.inl rfl)
      rw [year?, hdigits, skipBlanks_digits (by decide)]
      split
      next h => exact absurd h (digits_append_ne_cons (by decide) _ (by decide) _ _)
      next h => exact absurd h (digits_append_ne_cons (by decide) _ (by decide) _ _)
      next => rw [hread, Option.map_some, habs]
    next =>
      rw [List.cons_append, year?, skipBlanks_cons (by decide)]
      simp only [number?_yearDigits (by omega : year.natAbs < 1000000), Option.map_some, habs]

end Timestamp

/-- The months have at most 31 days. -/
theorem Date.Valid.lt_hundred {d : Date} (h : d.Valid) : d.month < 100 ∧ d.day < 100 := by
  obtain ⟨-, ⟨-, hmonth⟩, -, hday⟩ := h
  have hdays : daysInMonth d.year d.month ≤ 31 := by
    unfold daysInMonth
    split <;> try split
    all_goals decide
  omega

namespace Timestamp

/-- A date is read as it was written. -/
theorem date?_append {d : Date} (hd : d.Valid) (rest : List Char) :
    date? (yearText d.year ++ '-' :: (digits 2 d.month ++ '-' :: (digits 2 d.day ++ rest))) =
      some (d, rest) := by
  have ⟨hmonth, hday⟩ := hd.lt_hundred
  simp only [date?, year?_yearText hd.1, after?_cons (by decide : isBlank '-' = false),
    part?_digits hmonth, part?_digits hday, Option.bind_eq_bind, Option.bind_some, Option.pure_def]

/-! ### Whole timestamps -/

/-- The timestamp without its fractions of a second. -/
def wholeSeconds (t : Timestamp) : Timestamp :=
  ⟨{ t.moment with nanosecond := 0 },
    t.valid.1, t.valid.2.1, t.valid.2.2.1, t.valid.2.2.2.1, Nat.zero_lt_succ _⟩

/-- What is read of a text that has been written: the moment without fractions of a second, in
universal time. -/
theorem local?_chars (t : Timestamp) :
    local? t.chars = some ((t.wholeSeconds.moment, 0), []) := by
  obtain ⟨hdate, hhour, hminute, hsecond, -⟩ := t.valid
  have hnoon : nanosecond? ['Z'] = some (0, ['Z']) := rfl
  have hzone : zone? ['Z'] = some (0, []) := rfl
  simp only [chars, List.append_assoc, List.cons_append, local?, date?_append hdate, afterDate?,
    after?_cons (by decide : isBlank ':' = false), part?_digits (by omega : t.moment.hour < 100),
    part?_digits (by omega : t.moment.minute < 100),
    part?_digits (by omega : t.moment.second < 100), hnoon, hzone, Option.bind_eq_bind,
    Option.bind_some, Option.pure_def, wholeSeconds]

end Timestamp

/-- A moment in universal time is the same in universal time. -/
theorem Moment.Valid.earlier_zero {m : Moment} (h : m.Valid) : m.earlier 0 = m := by
  obtain ⟨-, hhour, hminute, -, -⟩ := h
  have hsum : (60 * m.hour + m.minute - 0 : Int) = ((60 * m.hour + m.minute : Nat) : Int) := by
    omega
  have hmod : ((60 * m.hour + m.minute : Nat) : Int) % 1440 =
      ((60 * m.hour + m.minute : Nat) : Int) := by omega
  rw [earlier]
  simp only [hsum, hmod, Int.toNat_natCast]
  rw [if_neg (by omega), if_pos (by omega)]
  congr 1 <;> omega

namespace Timestamp

/-- **A timestamp that is written and read** is the same up to the second. -/
theorem ofText?_text (t : Timestamp) : ofText? t.text = some t.wholeSeconds := by
  have hearlier := t.wholeSeconds.valid.earlier_zero
  have hguard : skipBlanks [] = [] ∧ t.wholeSeconds.moment.Valid := ⟨rfl, t.wholeSeconds.valid⟩
  rw [ofText?, text, String.toList_ofList, local?_chars]
  simp only [Option.bind_eq_bind, Option.bind_some, guard, hearlier]
  rw [if_pos hguard]
  exact dif_pos t.wholeSeconds.valid

/-- A timestamp is written like the timestamp without its fractions of a second. -/
theorem text_wholeSeconds (t : Timestamp) : t.wholeSeconds.text = t.text := rfl

end Timestamp

end SecretRotation.Text
