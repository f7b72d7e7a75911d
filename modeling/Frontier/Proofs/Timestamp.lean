import Frontier.Proofs.Marker
import Frontier.Timestamp
import Mathlib.Algebra.Group.Nat.Defs
import Mathlib.Data.List.TakeWhile

/-!
# Timestamps read back

The reader of timestamps is generous, but it takes what is written as it was meant: every field has its full width, so
that no digit of it is left over, and the fraction has as many digits as the reader multiplies by.
-/

namespace Frontier
open Text

namespace Timestamp

/-! ## Digits of a fixed width -/

theorem length_padded (width n : Nat) : (padded width n).length = width := by
  induction width generalizing n with
  | zero => rfl
  | succ width ih => rw [padded, List.length_append, ih, List.length_singleton]

theorem padded_digits (width n : Nat) : ∀ c ∈ padded width n, c.isDigit = true := by
  have digit : ∀ d < 10, (Nat.digitChar d).isDigit = true := by decide
  induction width generalizing n with
  | zero => simp [padded]
  | succ width ih =>
    rw [padded]
    exact List.forall_mem_append.mpr ⟨ih _, List.forall_mem_singleton.mpr (digit _ (Nat.mod_lt _ (by decide)))⟩

theorem padded_read (width n : Nat) : digitsFrom 0 (padded width n) = some (n % 10 ^ width) := by
  have digit : ∀ d < 10, (Nat.digitChar d).isDigit = true ∧ (Nat.digitChar d).toNat - '0'.toNat = d := by decide
  induction width generalizing n with
  | zero => simp [padded, digitsFrom, Nat.mod_one]
  | succ width ih =>
    obtain ⟨shown, value⟩ := digit (n % 10) (Nat.mod_lt _ (by decide))
    rw [padded, digitsFrom_append, ih]
    simp only [Option.bind_some, digitsFrom, shown, value, ↓reduceIte]
    rw [Nat.pow_succ', Nat.mod_mul, Nat.add_comm]

/-- Fixed digits are read as a number if there is no room for more, or no more follow. -/
theorem number?_padded {width limit n : Nat} (some : width ≠ 0) (fits : width ≤ limit) (small : n < 10 ^ width)
    {rest : List Char} (ends : width = limit ∨ ∀ c ∈ rest.head?, c.isDigit = false) :
    number? limit (padded width n ++ rest) = .some (n, rest) := by
  have length := length_padded width n
  have read := padded_read width n
  have next : (rest.take (limit - width)).takeWhile Char.isDigit = [] := by
    rcases ends with rfl | other
    · rw [Nat.sub_self, List.take_zero, List.takeWhile_nil]
    · cases rest with
      | nil => rw [List.take_nil, List.takeWhile_nil]
      | cons c more =>
        cases limit - width with
        | zero => rfl
        | succ room => rw [List.take_succ_cons, List.takeWhile_cons_of_neg (by simp [other c rfl])]
  have taken : ((padded width n ++ rest).take limit).takeWhile Char.isDigit = padded width n := by
    rw [List.take_append, List.take_of_length_le (length.trans_le fits), length,
      List.takeWhile_append_of_pos (padded_digits width n), next, List.append_nil]
  have full : (padded width n).isEmpty = false := by
    rw [List.isEmpty_eq_false_iff, ← List.length_pos_iff, length]
    exact Nat.pos_of_ne_zero some
  rw [Nat.mod_eq_of_lt small] at read
  simp only [number?, taken, full, read, Bool.false_eq_true, ↓reduceIte, Option.map_some, List.drop_left]

theorem padded_cons {width : Nat} (some : width ≠ 0) (n : Nat) :
    ∃ c more, padded width n = c :: more ∧ c.isDigit = true := by
  obtain ⟨c, more, digits⟩ : ∃ c more, padded width n = c :: more :=
    List.exists_cons_of_ne_nil (List.ne_nil_of_length_pos (by rw [length_padded]; exact Nat.pos_of_ne_zero some))
  exact ⟨c, more, digits, padded_digits width n c (digits ▸ List.mem_cons_self)⟩

theorem skip_padded {width : Nat} (some : width ≠ 0) (n : Nat) (rest : List Char) :
    skip (padded width n ++ rest) = padded width n ++ rest := by
  obtain ⟨c, more, digits, digit⟩ := padded_cons some n
  rw [digits, List.cons_append, skip, List.dropWhile_cons_of_neg (by simp [isBlank_digit digit])]

/-! ## Fields -/

theorem year?_yearChars {year : Int} (low : 0 ≤ year) (high : year ≤ 9999) (rest : List Char) :
    year? (yearChars year ++ rest) = some (year, rest) := by
  have number : number? 4 (padded 4 year.toNat ++ rest) = some (year.toNat, rest) :=
    number?_padded (by decide) (by decide) (by omega) (.inl rfl)
  have four : yearChars year = padded 4 year.toNat := if_pos (by simp [low, high])
  obtain ⟨c, more, digits, digit⟩ := padded_cons (show 4 ≠ 0 by decide) year.toNat
  rw [four, year?, skip_padded (by decide), digits, List.cons_append]
  rw [digits, List.cons_append] at number
  split
  · next same =>
    obtain ⟨rfl, -⟩ := List.cons.inj same
    exact absurd digit (by decide)
  · next same =>
    obtain ⟨rfl, -⟩ := List.cons.inj same
    exact absurd digit (by decide)
  · rw [number, Option.map_some]
    exact congrArg (fun y => some (y, rest)) (Int.toNat_of_nonneg low)

theorem field?_padded {sep : Char} (shown : isBlank sep = false) {n : Nat} (small : n < 100) (rest : List Char) :
    field? sep (sep :: (padded 2 n ++ rest)) = some (n, rest) := by
  have skipped : skip (sep :: (padded 2 n ++ rest)) = sep :: (padded 2 n ++ rest) :=
    List.dropWhile_cons_of_neg (by simp [shown])
  simp only [field?, skipped, beq_self_eq_true, ↓reduceIte]
  rw [skip_padded (by decide)]
  exact number?_padded (by decide) (by decide) small (.inl rfl)

theorem fraction?_padded {width n : Nat} (some : width ≠ 0) (fits : width ≤ 9) (small : n < 10 ^ width) :
    fraction? ('.' :: padded width n ++ ['Z']) = .some (n * 10 ^ (9 - width), ['Z']) := by
  have number : number? 9 (padded width n ++ ['Z']) = .some (n, ['Z']) :=
    number?_padded some fits small (.inr (by simp))
  have used : (padded width n ++ ['Z']).length - ['Z'].length = width := by simp [length_padded]
  rw [List.cons_append, fraction?, number, Option.map_some]
  simp only [used]
  rfl

/-- The fraction is read as the nanoseconds that it was written for. -/
theorem fraction?_fractionChars {nano : Nat} (small : nano < 1000000000) :
    fraction? (fractionChars nano ++ ['Z']) = some (nano, ['Z']) := by
  unfold fractionChars
  split
  · next zero => rw [eq_of_beq zero]; rfl
  split
  · next milli =>
    have whole := Nat.div_mul_cancel (Nat.dvd_of_mod_eq_zero (eq_of_beq milli))
    rw [fraction?_padded (by decide) (by decide) (by omega)]
    exact congrArg (fun n => some (n, ['Z'])) whole
  split
  · next micro =>
    have whole := Nat.div_mul_cancel (Nat.dvd_of_mod_eq_zero (eq_of_beq micro))
    rw [fraction?_padded (by decide) (by decide) (by omega)]
    exact congrArg (fun n => some (n, ['Z'])) whole
  · rw [fraction?_padded (by decide) (by decide) small]
    exact congrArg (fun n => some (n, ['Z'])) (Nat.mul_one nano)

theorem ofFields?_fields (t : Timestamp) :
    ofFields? t.year t.month t.day t.hour t.minute t.second t.nano = some t := by
  rw [ofFields?, dif_pos t.isMoment]

/-- At no offset from universal time a moment stays as it is. -/
theorem atOffset?_zero (t : Timestamp) : t.atOffset? 0 = some t := by
  obtain ⟨-, -, -, -, -, -, hour, minute, -, -⟩ := t.isMoment
  have late : ¬ 60 * (t.hour : Int) + t.minute - 0 < 0 := by omega
  have early : ¬ 1440 ≤ 60 * (t.hour : Int) + t.minute - 0 := by omega
  have hours : ((60 * (t.hour : Int) + t.minute - 0) % 1440).toNat / 60 = t.hour := by omega
  have minutes : ((60 * (t.hour : Int) + t.minute - 0) % 1440).toNat % 60 = t.minute := by omega
  simp only [atOffset?, late, early, hours, minutes, ↓reduceIte, ofFields?_fields]

theorem daysIn_le (year : Int) (month : Nat) : daysIn year month ≤ 31 := by
  unfold daysIn
  split
  · split <;> decide
  · split <;> decide

/-- A moment of a year with four digits is read back from its written form. -/
theorem parse?_chars {t : Timestamp} (low : 0 ≤ t.year) (high : t.year ≤ 9999) : parse? t.chars = some t := by
  obtain ⟨-, -, -, month, -, day, hour, minute, second, nano⟩ := t.isMoment
  have days := daysIn_le t.year t.month
  have hyphen : isBlank '-' = false := by decide
  have colon : isBlank ':' = false := by decide
  have between : ∀ rest, betweenDateAndTime? ('T' :: (padded 2 t.hour ++ rest)) = some (padded 2 t.hour ++ rest) :=
    fun rest => congrArg some (skip_padded (by decide) t.hour rest)
  have hours : ∀ rest, number? 2 (padded 2 t.hour ++ rest) = some (t.hour, rest) :=
    fun rest => number?_padded (by decide) (by decide) (by omega) (.inl rfl)
  have zone : offset? (skip ['Z']) = some (0, []) := by decide
  simp only [parse?, chars, year?_yearChars low high, field?_padded hyphen (show t.month < 100 by omega),
    field?_padded hyphen (show t.day < 100 by omega), between, hours, field?_padded colon (show t.minute < 100 by omega),
    field?_padded colon (show t.second < 100 by omega), fraction?_fractionChars nano, zone, Option.bind_eq_bind,
    Option.bind_some, ofFields?_fields, atOffset?_zero]
  rfl

end Timestamp
end Frontier
