/-!
# Numbers as text

State ids and millisecond counts are naturals below 2^64, written in ASCII digits.
-/

namespace Frontier.Text

/-- The largest state id, and the largest millisecond count. -/
def maxWord : Nat := 18446744073709551615

/-- The value of a run of ASCII digits, read from the left after `seen`; `none` at any other character. -/
def digitsFrom (seen : Nat) : List Char → Option Nat
  | [] => some seen
  | c :: rest => if c.isDigit then digitsFrom (10 * seen + (c.toNat - '0'.toNat)) rest else none

/-- Reads a number of ASCII digits up to `maxWord`; leading zeros are allowed. -/
def readWord (cs : List Char) : Option Nat :=
  if cs.isEmpty then none else (digitsFrom 0 cs).filter (· ≤ maxWord)

/-- As `readWord`, with one plus sign in front allowed. -/
def readSignedWord : List Char → Option Nat
  | '+' :: rest => readWord rest
  | cs => readWord cs

end Frontier.Text
