import Frontier.Proofs.JsonText
import Frontier.Uuid
import Mathlib.Algebra.Group.Nat.Defs

/-!
# Session identifiers read back

An identifier is read back from its digits in groups; there are as many digits as it has bits for.
-/

namespace Frontier.Uuid
open Json (hexChar hexValue? hexValue?_hexChar)

theorem length_hexDigits (count n : Nat) : (hexDigits count n).length = count := by
  induction count generalizing n with
  | zero => rfl
  | succ count ih => rw [hexDigits, List.length_append, ih, List.length_singleton]

theorem hexFrom_append (front back : List Char) (seen : Nat) :
    hexFrom seen (front ++ back) = (hexFrom seen front).bind fun n => hexFrom n back := by
  induction front generalizing seen with
  | nil => rfl
  | cons c rest ih =>
    rw [List.cons_append, hexFrom, hexFrom]
    cases hexValue? c with
    | none => rfl
    | some d => exact ih _

/-- The last digits of a number are read as what it leaves when it is divided by a power of sixteen. -/
theorem hexFrom_hexDigits (count n : Nat) : hexFrom 0 (hexDigits count n) = some (n % 16 ^ count) := by
  induction count generalizing n with
  | zero => simp [hexDigits, hexFrom, Nat.mod_one]
  | succ count ih =>
    have digit : hexValue? (hexChar (n % 16)) = some (n % 16) := hexValue?_hexChar (Nat.mod_lt _ (by decide))
    rw [hexDigits, hexFrom_append, ih]
    simp only [Option.bind_some, hexFrom, digit]
    rw [Nat.pow_succ', Nat.mod_mul, Nat.add_comm]

theorem simple?_hexDigits (u : Uuid) : simple? (hexDigits 32 u.bits.toNat) = some u := by
  have small : u.bits.toNat % 16 ^ 32 = u.bits.toNat := Nat.mod_eq_of_lt u.bits.isLt
  rw [simple?, if_pos (length_hexDigits _ _), hexFrom_hexDigits, small]
  simp [ofNat]

/-- Hyphens between the groups are passed over. -/
theorem hyphenated?_groups {a b c d e : List Char} (first : a.length = 8) (second : b.length = 4) (third : c.length = 4)
    (fourth : d.length = 4) (fifth : e.length = 12) :
    hyphenated? (a ++ '-' :: (b ++ '-' :: (c ++ '-' :: (d ++ '-' :: e)))) = simple? (a ++ (b ++ (c ++ (d ++ e)))) := by
  have hyphens : hyphenated? (a ++ '-' :: (b ++ '-' :: (c ++ '-' :: (d ++ '-' :: e)))) = simple? _ :=
    if_pos (by simp [first, second, third, fourth, fifth])
  rw [hyphens]
  simp only [List.take_append, List.drop_append, List.drop_succ_cons, List.drop_zero, first, second, third, fourth]
  simp (disch := omega) [List.drop_eq_nil_of_le, List.take_of_length_le]

theorem groups_append (ds : List Char) :
    ds.take 8 ++ ((ds.drop 8).take 4 ++ ((ds.drop 12).take 4 ++ ((ds.drop 16).take 4 ++ ds.drop 20))) = ds := by
  rw [← List.drop_drop (i := 4) (j := 16), List.take_append_drop, ← List.drop_drop (i := 4) (j := 12),
    List.take_append_drop, ← List.drop_drop (i := 4) (j := 8), List.take_append_drop, List.take_append_drop]

/-- An identifier is read back from its written form. -/
theorem parse?_chars (u : Uuid) : parse? u.chars = some u := by
  have length := length_hexDigits 32 u.bits.toNat
  have read := simple?_hexDigits u
  unfold chars
  generalize hexDigits 32 u.bits.toNat = ds at length read ⊢
  have groups := hyphenated?_groups (a := ds.take 8) (b := (ds.drop 8).take 4) (c := (ds.drop 12).take 4)
    (d := (ds.drop 16).take 4) (e := ds.drop 20) (by simp [length]) (by simp [length]) (by simp [length])
    (by simp [length]) (by simp [length])
  rw [groups_append, read] at groups
  have long : ¬ (ds.take 8 ++ '-' :: ((ds.drop 8).take 4 ++ '-' :: ((ds.drop 12).take 4 ++
      '-' :: ((ds.drop 16).take 4 ++ '-' :: ds.drop 20)))).length = 32 := by simp [length]
  simp only [parse?, groups]
  rw [simple?, if_neg long]
  rfl

end Frontier.Uuid
