import Frontier.Machine.Bytes

/-!
# Numbers of the shell

Numbers have 64 bits. What is too large is read as the largest number there is, and what is computed wraps around.
-/

namespace Frontier.Shell

/-- The largest number. -/
def largest : Int := 0x7FFFFFFFFFFFFFFF

/-- The smallest number. -/
def smallest : Int := -0x8000000000000000

/-- The number of 64 bits that differs by a multiple of 2 to the 64th. -/
def wrap (n : Int) : Int := (BitVec.ofInt 64 n).toInt

/-- The nearest number of 64 bits. -/
def clamp (n : Int) : Int := if largest < n then largest else if n < smallest then smallest else n

/-- Reads a numeral whose base shows in its first digits. -/
def readNumeral : Bytes → Nat × Bytes
  | '0' :: x :: d :: rest =>
    if x == 'x' || x == 'X' then
      if Bytes.digitValue d < 16 then Bytes.readDigits 16 0 (d :: rest) else (0, x :: d :: rest)
    else Bytes.readDigits 8 0 (x :: d :: rest)
  | '0' :: rest => Bytes.readDigits 8 0 rest
  | text => Bytes.readDigits 10 0 text

/-- Reads a number with blanks and a sign before it, in some base or in the base that its first digits show; none
if there is no digit. -/
def readNumber? (base : Option Nat) (text : Bytes) : Option (Int × Bytes) :=
  let text := text.dropWhile Bytes.isSpace
  let (negative, digits) := match text with
    | '-' :: rest => (true, rest)
    | '+' :: rest => (false, rest)
    | _ => (false, text)
  if digits.head?.any fun c => Bytes.digitValue c < base.getD 10 then
    let (n, rest) := match base with
      | some b => Bytes.readDigits b 0 digits
      | none => readNumeral digits
    some (if negative then -(n : Int) else n, rest)
  else none

/-- The number that a whole text writes, blanks around it; none if that has more than 64 bits. Without a base, blanks
alone are zero. -/
def wholeNumber? (base : Option Nat) (text : Bytes) : Option Int :=
  match readNumber? base text with
  | some (n, rest) => if rest.all Bytes.isSpace && clamp n == n then some n else none
  | none => if base.isNone && text.all Bytes.isSpace then some 0 else none

/-- A number as commands of the shell take it: in decimal, not negative, of 31 bits. -/
def smallNumber? (text : Bytes) : Option Nat :=
  match wholeNumber? (some 10) text with
  | some n => if 0 ≤ n && n ≤ 0x7FFFFFFF then some n.toNat else none
  | none => none

end Frontier.Shell
