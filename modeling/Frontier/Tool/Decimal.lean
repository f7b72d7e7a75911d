import Frontier.Machine.Bytes

/-!
# Numbers with a point

A number with a point is kept exactly, as a quotient, after it has been rounded to the binary digits that a machine
word has. It is printed with the decimal digits that are asked for; a tie goes to the even digit.
-/

namespace Frontier

/-- A number as a machine word holds it. -/
inductive Quantity where
  | notANumber (negative : Bool)
  | infinite (negative : Bool)
  | finite (negative : Bool) (numerator denominator : Nat)
  deriving DecidableEq, Repr, Inhabited

namespace Quantity

/-- A power of ten. -/
def tens (n : Nat) : Nat := Nat.pow 10 n

/-- A quotient rounded to a whole number; a tie goes to the even one. -/
def roundQuotient (numerator denominator : Nat) : Nat :=
  let q := numerator / denominator
  let r := 2 * (numerator % denominator)
  if denominator < r || r == denominator && q % 2 == 1 then q + 1 else q

/-- The form of a machine word: how many binary digits it has, and the exponents of the last one. -/
structure Word where
  digits : Nat
  lowest : Int
  highest : Int
  deriving Repr, Inhabited

/-- The word of 64 bits. -/
def double : Word := ⟨53, -1074, 971⟩

/-- The word of 80 bits. -/
def extended : Word := ⟨64, -16445, 16320⟩

/-- A quotient times a power of two. -/
def scaled (numerator denominator : Nat) (exponent : Int) : Nat × Nat :=
  if 0 ≤ exponent then (numerator <<< exponent.toNat, denominator)
  else (numerator, denominator <<< (-exponent).toNat)

/-- A quotient rounded to a word, and whether it does not fit. -/
def round (w : Word) (negative : Bool) (numerator denominator : Nat) : Quantity × Bool :=
  if numerator == 0 then (.finite negative 0 1, false)
  else
    let guess : Int := (Nat.log2 numerator : Int) - (Nat.log2 denominator : Int) - (w.digits : Int)
    let fit (e : Int) : Nat :=
      let (n, d) := scaled numerator denominator (-e)
      roundQuotient n d
    let limit := 1 <<< w.digits
    let e := if fit (max guess w.lowest) < limit then max guess w.lowest else max (guess + 1) w.lowest
    let m := fit e
    let (m, e) := if m == limit then (m / 2, e + 1) else (m, e)
    if w.highest < e then (.infinite negative, true)
    else
      let (n, d) := scaled m 1 e
      let (exactly, by_) := scaled numerator denominator (-e)
      (.finite negative n d, e == w.lowest && m < limit / 2 && exactly != m * by_)

/-- Digits with a point among them: their value as digits, how many follow the point, and the rest. -/
def readDigits (base : Nat) (text : Bytes) : Option (Nat × Nat × Bytes) :=
  let isDigit (c : Char) : Bool := Bytes.digitValue c < base
  let before := text.takeWhile isDigit
  let rest := text.drop before.length
  let (after, rest) := match rest with
    | '.' :: more => if before.isEmpty && !(more.head?.any isDigit) then ([], rest)
        else (more.takeWhile isDigit, more.dropWhile isDigit)
    | _ => ([], rest)
  if before.isEmpty && after.isEmpty then none
  else some ((Bytes.readDigits base 0 (before ++ after)).1, after.length, rest)

/-- An exponent after its letter, and the rest. -/
def readExponent (letter : Char) (text : Bytes) : Int × Bytes :=
  match text with
  | c :: rest =>
    if c.toLower == letter then
      let (negative, digits) := match rest with
        | '-' :: more => (true, more)
        | '+' :: more => (false, more)
        | more => (false, more)
      if digits.head?.any Char.isDigit then
        let (n, rest) := Bytes.readDigits 10 0 digits
        (if negative then -(n : Int) else n, rest)
      else (0, text)
    else (0, text)
  | [] => (0, [])

/-- The largest exponent that makes a difference. -/
def exponentLimit : Nat := 20000

/-- Whether a text begins with a word, whatever the case. -/
def begins (word : String) (text : Bytes) : Bool := (text.take word.length).map Char.toLower == word.toList

/-- Reads a number after its sign: the number, whether it does not fit, and the rest. -/
def readUnsigned (w : Word) (negative : Bool) (text : Bytes) : Option (Quantity × Bool × Bytes) :=
  if begins "infinity" text then some (.infinite negative, false, text.drop 8)
  else if begins "inf" text then some (.infinite negative, false, text.drop 3)
  else if begins "nan" text then some (.notANumber negative, false, text.drop 3)
  else
    let hexadecimal := if begins "0x" text then readDigits 16 (text.drop 2) else none
    match hexadecimal with
    | some (n, places, rest) =>
      let (e, rest) := readExponent 'p' rest
      let e := max (-(exponentLimit : Int)) (min exponentLimit (e - 4 * (places : Int)))
      let (n, d) := scaled n 1 e
      let (r, outside) := round w negative n d
      some (r, outside, rest)
    | none =>
      match readDigits 10 text with
      | none => none
      | some (n, places, rest) =>
        let (e, rest) := readExponent 'e' rest
        let e := max (-(exponentLimit : Int)) (min exponentLimit (e - (places : Int)))
        let (r, outside) := if 0 ≤ e then round w negative (n * tens e.toNat) 1
          else round w negative n (tens (-e).toNat)
        some (r, outside, rest)

/-- Reads a number, blanks and a sign before it. -/
def read (w : Word) (text : Bytes) : Option (Quantity × Bool × Bytes) :=
  match text.dropWhile Bytes.isSpace with
  | '-' :: rest => readUnsigned w true rest
  | '+' :: rest => readUnsigned w false rest
  | rest => readUnsigned w false rest

/-- A whole number. -/
def ofInt (n : Int) : Quantity := .finite (n < 0) n.natAbs 1

/-- Whether a number is below zero. -/
def isNegative : Quantity → Bool
  | notANumber negative | infinite negative | finite negative _ _ => negative

/-! ## Printing -/

/-- Digits with a point before the last `places`, and the point at the end if `always`. -/
def pointed (digits : Nat) (places : Nat) (always : Bool) : Bytes :=
  let text := Bytes.padded 10 (places + 1) digits
  let whole := text.take (text.length - places)
  if places == 0 then (if always then whole ++ ['.'] else whole) else whole ++ '.' :: text.drop whole.length

/-- A quotient with a number of places after the point. -/
def fixed (numerator denominator places : Nat) (always : Bool) : Bytes :=
  pointed (roundQuotient (numerator * tens places) denominator) places always

/-- The decimal exponent of a quotient that is not zero. -/
def exponentOf (numerator denominator : Nat) : Int :=
  let guess : Int := ((Nat.toDigits 10 numerator).length : Int) - ((Nat.toDigits 10 denominator).length : Int)
  let below := if 0 ≤ guess then numerator < denominator * tens guess.toNat
    else numerator * tens (-guess).toNat < denominator
  if below then guess - 1 else guess

/-- The digits of a quotient in the form with an exponent: the first `places + 1` digits, and the exponent. -/
def significant (numerator denominator places : Nat) : Nat × Int :=
  if numerator == 0 then (0, 0)
  else
    let e := exponentOf numerator denominator
    let shift : Int := (places : Int) - e
    let digits := if 0 ≤ shift then roundQuotient (numerator * tens shift.toNat) denominator
      else roundQuotient numerator (denominator * tens (-shift).toNat)
    if digits == tens (places + 1) then (tens places, e + 1) else (digits, e)

/-- An exponent with its sign and two digits at least. -/
def exponentText (letter : Char) (e : Int) : Bytes :=
  letter :: (if e < 0 then '-' else '+') :: Bytes.padded 10 2 e.natAbs

/-- A quotient in the form with an exponent. -/
def scientific (numerator denominator places : Nat) (always : Bool) : Bytes :=
  let (digits, e) := significant numerator denominator places
  pointed digits places always ++ exponentText 'e' e

/-- A text without zeros at its end, and without a point there. -/
def withoutZeros (text : Bytes) : Bytes :=
  if text.contains '.' then
    let text := (text.reverse.dropWhile (· == '0')).reverse
    if text.getLast? == some '.' then text.dropLast else text
  else text

/-- A quotient in the shorter of the two forms. -/
def general (numerator denominator precision : Nat) (always : Bool) : Bytes :=
  let p := max precision 1
  let (digits, e) := significant numerator denominator (p - 1)
  if -4 ≤ e && e < p then
    let text := fixed numerator denominator ((p : Int) - 1 - e).toNat always
    if always then text else withoutZeros text
  else
    let text := pointed digits (p - 1) always
    (if always then text else withoutZeros text) ++ exponentText 'e' e

/-- A quotient in binary, written in hexadecimal. -/
def hexadecimal (numerator denominator : Nat) (precision : Option Nat) (always : Bool) : Bytes :=
  if numerator == 0 then
    bytesOf "0x" ++ pointed 0 (precision.getD 0) always ++ bytesOf "p+0"
  else
    let e : Int := (Nat.log2 numerator : Int) - (Nat.log2 denominator : Int)
    let e := if (scaled numerator denominator (-e)).1 < (scaled numerator denominator (-e)).2 then e - 1 else e
    let places := precision.getD 13
    let (n, d) := scaled numerator denominator (4 * (places : Int) - e)
    let m := roundQuotient n d
    let text := Bytes.padded 16 (places + 1) m
    let tail := text.drop (text.length - places)
    let tail := if precision.isNone then (tail.reverse.dropWhile (· == '0')).reverse else tail
    let whole := text.take (text.length - places)
    bytesOf "0x" ++ whole ++ (if tail.isEmpty then (if always then ['.'] else []) else '.' :: tail) ++
      'p' :: (if e < 0 then '-' else '+') :: Bytes.ofNat e.natAbs

end Quantity

/-- How a conversion fills its place. -/
structure Layout where
  left : Bool := false
  zeros : Bool := false
  plus : Bool := false
  space : Bool := false
  alternate : Bool := false
  width : Nat := 0
  precision : Option Nat := none
  deriving DecidableEq, Repr, Inhabited

namespace Layout

/-- Fills up a text to the width. -/
def pad (l : Layout) (text : Bytes) : Bytes :=
  let blanks := List.replicate (l.width - text.length) ' '
  if l.left then text ++ blanks else blanks ++ text

/-- A text, cut to the precision. -/
def text (l : Layout) (cs : Bytes) : Bytes :=
  l.pad (match l.precision with
    | some n => cs.take n
    | none => cs)

/-- The sign of a number. -/
def sign (l : Layout) (negative : Bool) : Bytes :=
  if negative then ['-'] else if l.plus then ['+'] else if l.space then [' '] else []

/-- Digits with what stands before them; zeros stand between the two. -/
def filled (l : Layout) (before digits : Bytes) : Bytes :=
  if l.zeros && !l.left then before ++ List.replicate (l.width - before.length - digits.length) '0' ++ digits
  else l.pad (before ++ digits)

/-- A whole number with what stands before it. -/
def number (l : Layout) (before digits : Bytes) : Bytes :=
  match l.precision with
  | some n =>
    l.pad (before ++ List.replicate (n - digits.length) '0' ++ (if n == 0 && digits == ['0'] then [] else digits))
  | none => l.filled before digits

/-- A number with a sign. -/
def signed (l : Layout) (n : Int) : Bytes := l.number (l.sign (n < 0)) (Bytes.ofNat n.natAbs)

/-- A number without sign in a base. -/
def unsigned (l : Layout) (base : Nat) (upper : Bool) (n : Nat) : Bytes :=
  let digits := Nat.toDigits base n
  let digits := if upper then digits.map Char.toUpper else digits
  if base == 8 && l.alternate && digits.head? != some '0' then
    l.number [] (match l.precision with
      | some p => if digits.length < p then digits else '0' :: digits
      | none => '0' :: digits)
  else l.number (if base == 16 && l.alternate && n != 0 then (if upper then ['0', 'X'] else ['0', 'x']) else []) digits

/-- A number with a point, in the form that a letter asks for. -/
def real (l : Layout) (form : Char) (r : Quantity) : Bytes :=
  let text (digits : Bytes) : Bytes := if form.isUpper then digits.map Char.toUpper else digits
  let word (negative : Bool) (name : String) : Bytes := l.pad (l.sign negative ++ text (bytesOf name))
  match r with
  | .notANumber negative => word negative "nan"
  | .infinite negative => word negative "inf"
  | .finite negative n d =>
    let p := l.precision.getD 6
    let digits := match form.toLower with
      | 'f' => Quantity.fixed n d p l.alternate
      | 'e' => Quantity.scientific n d p l.alternate
      | 'a' => Quantity.hexadecimal n d l.precision l.alternate
      | _ => Quantity.general n d p l.alternate
    l.filled (l.sign negative) (text digits)

/-- Reads the flags of a conversion. -/
def readFlags (l : Layout) : Bytes → Layout × Bytes
  | '-' :: rest => readFlags { l with left := true } rest
  | '0' :: rest => readFlags { l with zeros := true } rest
  | '+' :: rest => readFlags { l with plus := true } rest
  | ' ' :: rest => readFlags { l with space := true } rest
  | '#' :: rest => readFlags { l with alternate := true } rest
  | text => (l, text)

end Layout
end Frontier
