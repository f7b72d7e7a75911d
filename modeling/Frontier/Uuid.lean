import Frontier.Json.Value

/-!
# Session identifiers

A session is identified by 128 bits, written as 32 hexadecimal digits in groups of 8, 4, 4, 4 and 12.
-/

namespace Frontier

/-- A session identifier. -/
structure Uuid where
  bits : BitVec 128
  deriving DecidableEq, Repr, Inhabited

namespace Uuid

/-- The identifier with a number. -/
def ofNat (n : Nat) : Uuid := ⟨BitVec.ofNat 128 n⟩

/-- The last `count` hexadecimal digits of a number, lower case. -/
def hexDigits : Nat → Nat → List Char
  | 0, _ => []
  | count + 1, n => hexDigits count (n / 16) ++ [Json.hexChar (n % 16)]

/-- The digits with their hyphens. -/
def chars (u : Uuid) : List Char :=
  let ds := hexDigits 32 u.bits.toNat
  ds.take 8 ++ '-' :: ((ds.drop 8).take 4 ++ '-' :: ((ds.drop 12).take 4 ++
    '-' :: ((ds.drop 16).take 4 ++ '-' :: ds.drop 20)))

/-- The number written by hexadecimal digits of either case, read from the left after `seen`. -/
def hexFrom (seen : Nat) : List Char → Option Nat
  | [] => some seen
  | c :: rest => (Json.hexValue? c).bind fun d => hexFrom (16 * seen + d) rest

/-- Reads 32 digits. -/
def simple? (cs : List Char) : Option Uuid :=
  if cs.length = 32 then (hexFrom 0 cs).map ofNat else none

/-- Reads 32 digits with hyphens after the 8th, 12th, 16th and 20th. -/
def hyphenated? (cs : List Char) : Option Uuid :=
  let sep (i : Nat) : Bool := cs[i]? == some '-'
  if cs.length = 36 && sep 8 && sep 13 && sep 18 && sep 23 then
    simple? (cs.take 8 ++ (cs.drop 9).take 4 ++ (cs.drop 14).take 4 ++ (cs.drop 19).take 4 ++ cs.drop 24)
  else none

/-- The text inside braces. -/
def unbraced? : List Char → Option (List Char)
  | '\x7b' :: cs => if cs.getLast? == some '\x7d' then some cs.dropLast else none
  | _ => none

/-- The text after the scheme of a resource name. -/
def unscheme? (cs : List Char) : Option (List Char) := Json.word? ['u', 'r', 'n', ':', 'u', 'u', 'i', 'd', ':'] cs

/-- Reads an identifier: bare digits, or hyphenated ones, which may stand in braces or after a scheme. -/
def parse? (cs : List Char) : Option Uuid :=
  simple? cs <|> hyphenated? cs <|> ((unbraced? cs).bind hyphenated?) <|> ((unscheme? cs).bind hyphenated?)

end Uuid
end Frontier
