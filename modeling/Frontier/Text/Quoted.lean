import Frontier.Text.Unprintable

/-!
# Quoted text

Messages show settings between double quotes. A quote and a backslash are written with a backslash, the usual
controls by their letter, and any other character that does not show by its number in hexadecimal.
-/

namespace Frontier.Text

/-- The digits of a number in hexadecimal, lower case, without leading zeros. -/
def hexDigits (n : Nat) : List Char := Nat.toDigits 16 n

/-- How a character is written between quotes. -/
def quotedChar (c : Char) : List Char :=
  if c == '"' then ['\\', '"']
  else if c == '\\' then ['\\', '\\']
  else if c == '\n' then ['\\', 'n']
  else if c == '\r' then ['\\', 'r']
  else if c == '\t' then ['\\', 't']
  else if c.toNat == 0 then ['\\', '0']
  else if isUnprintable c then '\\' :: 'u' :: '\x7b' :: (hexDigits c.toNat ++ ['\x7d'])
  else [c]

/-- A text between double quotes. -/
def quoted (s : String) : String := String.ofList ('"' :: (s.toList.flatMap quotedChar ++ ['"']))

/-- A list of texts, each between double quotes. -/
def quotedList (xs : List String) : String := "[" ++ String.intercalate ", " (xs.map quoted) ++ "]"

end Frontier.Text
