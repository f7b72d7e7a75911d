import Frontier.Text.Ranges

/-!
# Blank characters

Three sets: the blanks that separate statements (ASCII), the Unicode property White_Space, and line ends.
Trimming removes a set from both ends of a text.
-/

namespace Frontier.Text

/-- The Unicode property White_Space. -/
def blankRanges : List (Nat × Nat) :=
  [(0x09, 0x0D), (0x20, 0x20), (0x85, 0x85), (0xA0, 0xA0), (0x1680, 0x1680), (0x2000, 0x200A),
   (0x2028, 0x2029), (0x202F, 0x202F), (0x205F, 0x205F), (0x3000, 0x3000)]

/-- A character with the property White_Space. -/
def isBlank (c : Char) : Bool := inRanges blankRanges c.toNat

/-- Space, tab, line feed, form feed and carriage return; the vertical tab is none of them. -/
def isAsciiBlank (c : Char) : Bool :=
  c == ' ' || c == '\t' || c == '\n' || c == '\x0c' || c == '\r'

/-- A carriage return or a line feed. -/
def isLineEnd (c : Char) : Bool := c == '\r' || c == '\n'

/-- Removes the characters of a set from both ends. -/
def trimBoth (p : Char → Bool) (cs : List Char) : List Char :=
  ((cs.dropWhile p).reverse.dropWhile p).reverse

/-- Removes the characters of a set from the end. -/
def trimEnd (p : Char → Bool) (cs : List Char) : List Char :=
  (cs.reverse.dropWhile p).reverse

/-- Removes White_Space from both ends. -/
def trim (cs : List Char) : List Char := trimBoth isBlank cs

/-- The maximal runs of characters outside a set. -/
def words (p : Char → Bool) : List Char → List (List Char)
  | [] => []
  | c :: rest =>
    if p c then words p rest
    else match rest with
      | [] => [[c]]
      | d :: _ =>
        if p d then [c] :: words p rest
        else match words p rest with
          | [] => [[c]]
          | w :: more => (c :: w) :: more

end Frontier.Text
