/-!
# Bytes

What programs read and write are bytes. Most of them are letters, so that a byte is written as the character with
its number.
-/

namespace Frontier

/-- Bytes, each as the character with its number. -/
abbrev Bytes := List Char

/-- The bytes of a text. -/
def bytesOf (text : String) : Bytes := text.toUTF8.toList.map fun b => Char.ofNat b.toNat

/-- Bytes that came from outside. -/
def received (bytes : List UInt8) : Bytes := bytes.map fun b => Char.ofNat b.toNat

/-- Bytes as they leave. -/
def released (bytes : Bytes) : List UInt8 := bytes.map fun c => c.toNat.toUInt8

namespace Bytes

/-- A number in decimal. -/
def ofNat (n : Nat) : Bytes := Nat.toDigits 10 n

/-- A number in decimal, with its sign. -/
def ofInt (n : Int) : Bytes := if n < 0 then '-' :: ofNat n.natAbs else ofNat n.natAbs

/-- The parts between the separators; there is one part more than separators. -/
def split (separator : Char) : Bytes → List Bytes
  | [] => [[]]
  | c :: rest =>
    match split separator rest with
    | [] => [[c]]
    | part :: more => if c == separator then [] :: part :: more else (c :: part) :: more

/-- The parts with a separator between each two. -/
def join (separator : Bytes) (parts : List Bytes) : Bytes := separator.intercalate parts

/-- The parts that separators end; what follows the last separator is a part if there is something. -/
def lines (separator : Char) (text : Bytes) : List Bytes :=
  let parts := split separator text
  if parts.getLast?.any List.isEmpty then parts.dropLast else parts

/-- How two texts are ordered byte by byte. -/
def compare : Bytes → Bytes → Ordering
  | [], [] => .eq
  | [], _ => .lt
  | _, [] => .gt
  | a :: as, b :: bs => if a.toNat < b.toNat then .lt else if b.toNat < a.toNat then .gt else compare as bs

/-- Whether one text comes before another or equals it. -/
def le (a b : Bytes) : Bool := compare a b != .gt

/-- Whether a text consists of decimal digits and has one. -/
def isNumeral (text : Bytes) : Bool := !text.isEmpty && text.all Char.isDigit

/-- The value of decimal digits. -/
def toNat (digits : Bytes) : Nat := digits.foldl (fun n c => 10 * n + (c.toNat - '0'.toNat)) 0

/-- The number that decimal digits write. -/
def toNat? (text : Bytes) : Option Nat := if isNumeral text then some (toNat text) else none

/-- Space, tab, line feed, vertical tab, form feed and carriage return. -/
def isSpace (c : Char) : Bool := c == ' ' || ('\t' ≤ c && c ≤ '\r')

/-- The value of a digit in some base up to 36. -/
def digitValue (c : Char) : Nat :=
  if c.isDigit then c.toNat - 48
  else if 'a' ≤ c && c ≤ 'z' then c.toNat - 87
  else if 'A' ≤ c && c ≤ 'Z' then c.toNat - 55
  else 99

/-- Reads digits of a base, after a value read before. -/
def readDigits (base : Nat) : Nat → Bytes → Nat × Bytes
  | n, [] => (n, [])
  | n, c :: rest => if digitValue c < base then readDigits base (n * base + digitValue c) rest else (n, c :: rest)

/-- A number in a base, filled up with zeros. -/
def padded (base width n : Nat) : Bytes :=
  let digits := Nat.toDigits base n
  List.replicate (width - digits.length) '0' ++ digits

end Bytes
end Frontier
