import Frontier.Text.Blank
import Frontier.Text.Number

/-!
# Timestamps

Publications are stamped with a moment in universal time, kept as calendar fields. It is written in the
internet profile of ISO 8601 with a `Z`, and with 0, 3, 6 or 9 digits of a second's fraction, the fewest that
are exact. The reader is more generous: blanks may surround the fields, numbers may be short, and an offset
from universal time is taken off.
-/

namespace Frontier
open Text

namespace Timestamp

/-- Every fourth year is a leap year, but of the full centuries only every fourth. -/
def isLeap (year : Int) : Bool := year % 4 == 0 && (year % 100 != 0 || year % 400 == 0)

/-- The number of days of a month. -/
def daysIn (year : Int) (month : Nat) : Nat :=
  if month == 2 then (if isLeap year then 29 else 28)
  else if month == 4 || month == 6 || month == 9 || month == 11 then 30
  else 31

/-- Whether fields name a moment. Second 60 is a leap second, which may follow any minute. -/
def IsMoment (year : Int) (month day hour minute second nano : Nat) : Prop :=
  -262143 ≤ year ∧ year ≤ 262142 ∧ 1 ≤ month ∧ month ≤ 12 ∧ 1 ≤ day ∧ day ≤ daysIn year month ∧
    hour < 24 ∧ minute < 60 ∧ second ≤ 60 ∧ nano < 1000000000

instance (year : Int) (month day hour minute second nano : Nat) :
    Decidable (IsMoment year month day hour minute second nano) := by
  unfold IsMoment; infer_instance

end Timestamp

/-- A moment in universal time. -/
structure Timestamp where
  year : Int
  month : Nat
  day : Nat
  hour : Nat
  minute : Nat
  second : Nat
  nano : Nat
  isMoment : Timestamp.IsMoment year month day hour minute second nano
  deriving DecidableEq, Repr

namespace Timestamp

/-- The start of 1970. -/
def epoch : Timestamp := ⟨1970, 1, 1, 0, 0, 0, 0, by decide⟩

instance : Inhabited Timestamp := ⟨epoch⟩

/-- The moment with the given fields. -/
def ofFields? (year : Int) (month day hour minute second nano : Nat) : Option Timestamp :=
  if h : IsMoment year month day hour minute second nano then some ⟨year, month, day, hour, minute, second, nano, h⟩
  else none

/-! ## Writing -/

/-- The last `width` decimal digits of a number. -/
def padded : Nat → Nat → List Char
  | 0, _ => []
  | width + 1, n => padded width (n / 10) ++ [Nat.digitChar (n % 10)]

/-- A year: four digits up to 9999, and with a sign when it lies outside. -/
def yearChars (year : Int) : List Char :=
  if 0 ≤ year && year ≤ 9999 then padded 4 year.toNat
  else (if year < 0 then '-' else '+') ::
    (if year.natAbs ≤ 9999 then padded 4 year.natAbs else (toString year.natAbs).toList)

/-- A fraction of a second. -/
def fractionChars (nano : Nat) : List Char :=
  if nano == 0 then []
  else if nano % 1000000 == 0 then '.' :: padded 3 (nano / 1000000)
  else if nano % 1000 == 0 then '.' :: padded 6 (nano / 1000)
  else '.' :: padded 9 nano

/-- The written form. -/
def chars (t : Timestamp) : List Char :=
  yearChars t.year ++ '-' :: (padded 2 t.month ++ '-' :: (padded 2 t.day ++ 'T' :: (padded 2 t.hour ++
    ':' :: (padded 2 t.minute ++ ':' :: (padded 2 t.second ++ (fractionChars t.nano ++ ['Z']))))))

/-! ## Reading -/

/-- Drops the blanks at the head. -/
def skip (cs : List Char) : List Char := cs.dropWhile isBlank

/-- Reads a number of one to `width` digits. -/
def number? (width : Nat) (cs : List Char) : Option (Nat × List Char) :=
  let ds := (cs.take width).takeWhile Char.isDigit
  if ds.isEmpty then none else (digitsFrom 0 ds).map fun n => (n, cs.drop ds.length)

/-- Reads a number of any length. -/
def longNumber? (cs : List Char) : Option (Nat × List Char) := number? cs.length cs

/-- Reads a year: up to four digits, or a sign and any number of them. -/
def year? (cs : List Char) : Option (Int × List Char) :=
  match skip cs with
  | '-' :: rest => (longNumber? rest).map fun (n, rest) => (-(n : Int), rest)
  | '+' :: rest => (longNumber? rest).map fun (n, rest) => ((n : Int), rest)
  | rest => (number? 4 rest).map fun (n, rest) => ((n : Int), rest)

/-- Reads a separator, blanks before it allowed, and a number of one or two digits, blanks before it allowed. -/
def field? (sep : Char) (cs : List Char) : Option (Nat × List Char) :=
  match skip cs with
  | c :: rest => if c == sep then number? 2 (skip rest) else none
  | [] => none

/-- Reads what separates the date from the time. -/
def betweenDateAndTime? : List Char → Option (List Char)
  | c :: rest => if c == 'T' || c == 't' || c == ' ' then some (skip rest) else none
  | [] => none

/-- Reads a fraction, if there is one. Digits beyond the ninth are passed over. -/
def fraction? : List Char → Option (Nat × List Char)
  | '.' :: cs => (number? 9 cs).map fun (n, rest) =>
      (n * Nat.pow 10 (9 - (cs.length - rest.length)), rest.dropWhile Char.isDigit)
  | cs => some (0, cs)

/-- The value of two digits. -/
def twoDigits? : List Char → Option (Nat × List Char)
  | a :: b :: rest =>
    if a.isDigit && b.isDigit then some (10 * (a.toNat - 48) + (b.toNat - 48), rest) else none
  | _ => none

/-- Reads an offset in minutes after its sign: hours, colons and blanks, minutes. It is less than a day. -/
def minutes? (cs : List Char) : Option (Nat × List Char) := do
  let (hours, rest) ← twoDigits? cs
  let (minutes, rest) ← twoDigits? (rest.dropWhile fun c => c == ':' || isBlank c)
  if hours < 24 && minutes < 60 then some (60 * hours + minutes, rest) else none

/-- Reads the offset from universal time, in minutes. -/
def offset? : List Char → Option (Int × List Char)
  | '+' :: cs => (minutes? cs).map fun (n, rest) => ((n : Int), rest)
  | '-' :: cs => (minutes? cs).map fun (n, rest) => (-(n : Int), rest)
  | '\u2212' :: cs => (minutes? cs).map fun (n, rest) => (-(n : Int), rest)
  | a :: b :: c :: cs =>
    if a.toLower == 'u' && b.toLower == 't' && c.toLower == 'c' then some (0, cs)
    else if a.toLower == 'z' then some (0, b :: c :: cs) else none
  | a :: cs => if a.toLower == 'z' then some (0, cs) else none
  | [] => none

/-- The day before a date. -/
def dayBefore (year : Int) (month day : Nat) : Int × Nat × Nat :=
  if 1 < day then (year, month, day - 1)
  else if 1 < month then (year, month - 1, daysIn year (month - 1))
  else (year - 1, 12, 31)

/-- The day after a date. -/
def dayAfter (year : Int) (month day : Nat) : Int × Nat × Nat :=
  if day < daysIn year month then (year, month, day + 1)
  else if month < 12 then (year, month + 1, 1)
  else (year + 1, 1, 1)

/-- The moment whose local time is given by the fields of `t`, at an offset of less than a day from universal
time. -/
def atOffset? (t : Timestamp) (offset : Int) : Option Timestamp :=
  let total : Int := 60 * t.hour + t.minute - offset
  let (year, month, day) :=
    if total < 0 then dayBefore t.year t.month t.day
    else if 1440 ≤ total then dayAfter t.year t.month t.day
    else (t.year, t.month, t.day)
  let inDay := (total % 1440).toNat
  ofFields? year month day (inDay / 60) (inDay % 60) t.second t.nano

/-- Reads a timestamp. -/
def parse? (cs : List Char) : Option Timestamp := do
  let (year, rest) ← year? cs
  let (month, rest) ← field? '-' rest
  let (day, rest) ← field? '-' rest
  let rest ← betweenDateAndTime? rest
  let (hour, rest) ← number? 2 rest
  let (minute, rest) ← field? ':' rest
  let (second, rest) ← field? ':' rest
  let (nano, rest) ← fraction? rest
  let (offset, rest) ← offset? (skip rest)
  if (skip rest).isEmpty then (← ofFields? year month day hour minute second nano).atOffset? offset else none

end Timestamp
end Frontier
