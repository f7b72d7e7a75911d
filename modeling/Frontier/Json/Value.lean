import Frontier.Text.Number

/-!
# JSON text

Values as they are exchanged with a host, their compact text, and a strict reader: no trailing commas or data,
no leading zeros, no control characters in strings. What is well formed is not always a value: a string may have
half of a surrogate pair, and a number may be too large.
-/

namespace Frontier

/-- A JSON value. Members of an object stand in the order of the text, repeated keys included. -/
inductive Json where
  | null
  | bool (b : Bool)
  | int (n : Int)
  /-- A number with a fraction or an exponent, or minus zero. -/
  | real
  | text (s : List Char)
  /-- Something well formed that is no value: a string that holds no text, an object with such a key, or a number
  out of range. It can be passed over, but not be kept. -/
  | broken
  | array (items : List Json)
  | object (members : List (List Char × Json))
  deriving Repr, Inhabited

namespace Json
open Text

/-! ## Writing -/

/-- A hexadecimal digit. -/
def hexChar (n : Nat) : Char := if n < 10 then Char.ofNat (48 + n) else Char.ofNat (87 + n)

/-- How a character is written inside a string. -/
def escape (c : Char) : List Char :=
  if c == '"' then ['\\', '"']
  else if c == '\\' then ['\\', '\\']
  else if c == '\n' then ['\\', 'n']
  else if c == '\r' then ['\\', 'r']
  else if c == '\t' then ['\\', 't']
  else if c == '\x08' then ['\\', 'b']
  else if c == '\x0c' then ['\\', 'f']
  else if c.toNat < 0x20 then ['\\', 'u', '0', '0', hexChar (c.toNat / 16), hexChar (c.toNat % 16)]
  else [c]

/-- A string with its quotes. -/
def quote (s : List Char) : List Char := '"' :: (s.flatMap escape ++ ['"'])

/-- The digits of an integer. -/
def intChars : Int → List Char
  | .ofNat n => Nat.toDigits 10 n
  | .negSucc n => '-' :: Nat.toDigits 10 (n + 1)

mutual

/-- The compact text of a value. -/
def write : Json → List Char
  | .null => ['n', 'u', 'l', 'l']
  | .bool true => ['t', 'r', 'u', 'e']
  | .bool false => ['f', 'a', 'l', 's', 'e']
  | .int n => intChars n
  | .real => ['-', '0']
  | .text s => quote s
  | .broken => ['"', '\\', 'u', 'd', '8', '0', '0', '"']
  | .array [] => ['[', ']']
  | .array (x :: xs) => '[' :: (write x ++ writeItems xs)
  | .object [] => ['\x7b', '\x7d']
  | .object ((k, x) :: ms) => '\x7b' :: (quote k ++ ':' :: (write x ++ writeMembers ms))

/-- The further items of an array, and its end. -/
def writeItems : List Json → List Char
  | [] => [']']
  | x :: xs => ',' :: (write x ++ writeItems xs)

/-- The further members of an object, and its end. -/
def writeMembers : List (List Char × Json) → List Char
  | [] => ['\x7d']
  | (k, x) :: ms => ',' :: (quote k ++ ':' :: (write x ++ writeMembers ms))

end

/-! ## Reading -/

/-- Space, tab, line feed and carriage return. -/
def isSpace (c : Char) : Bool := c == ' ' || c == '\t' || c == '\n' || c == '\r'

/-- Drops the blanks at the head. -/
def skip (cs : List Char) : List Char := cs.dropWhile isSpace

/-- The value of a hexadecimal digit, of either case. -/
def hexValue? (c : Char) : Option Nat :=
  if c.isDigit then some (c.toNat - 48)
  else if 97 ≤ c.toNat && c.toNat ≤ 102 then some (c.toNat - 87)
  else if 65 ≤ c.toNat && c.toNat ≤ 70 then some (c.toNat - 55)
  else none

/-- The 16-bit unit written by the four hexadecimal digits at the head. -/
def unit? : List Char → Option (Nat × List Char)
  | a :: b :: c :: d :: rest => do
    let a ← hexValue? a
    let b ← hexValue? b
    let c ← hexValue? c
    let d ← hexValue? d
    some (((a * 16 + b) * 16 + c) * 16 + d, rest)
  | _ => none

/-- The second unit of a pair, with its escape, at the head. -/
def lowUnit? : List Char → Option (Nat × List Char)
  | '\\' :: 'u' :: cs => (unit? cs).filter fun (u, _) => 0xDC00 ≤ u && u < 0xE000
  | _ => none

/-- The character escaped after a backslash, or `none` for half a pair; and the rest. -/
def escaped? : List Char → Option (Option Char × List Char)
  | '"' :: rest => some (some '"', rest)
  | '\\' :: rest => some (some '\\', rest)
  | '/' :: rest => some (some '/', rest)
  | 'b' :: rest => some (some '\x08', rest)
  | 'f' :: rest => some (some '\x0c', rest)
  | 'n' :: rest => some (some '\n', rest)
  | 'r' :: rest => some (some '\r', rest)
  | 't' :: rest => some (some '\t', rest)
  | 'u' :: cs =>
    match unit? cs with
    | none => none
    | some (u, rest) =>
      if 0xD800 ≤ u && u < 0xDC00 then
        match lowUnit? rest with
        | some (v, rest) => some (some (Char.ofNat (0x10000 + (u - 0xD800) * 0x400 + (v - 0xDC00))), rest)
        | none => some (none, rest)
      else if 0xDC00 ≤ u && u < 0xE000 then some (none, rest)
      else some (some (Char.ofNat u), rest)
  | _ => none

theorem unit?_length {cs rest : List Char} {u : Nat} (h : unit? cs = some (u, rest)) :
    rest.length < cs.length := by
  unfold unit? at h
  split at h
  · simp only [Option.bind_eq_bind, Option.bind_eq_some_iff, Option.some.injEq, Prod.mk.injEq] at h
    obtain ⟨_, _, _, _, _, _, _, _, _, rfl⟩ := h
    simp only [List.length_cons]; omega
  · cases h

theorem escaped?_length {cs rest : List Char} {c : Option Char} (h : escaped? cs = some (c, rest)) :
    rest.length < cs.length := by
  unfold escaped? at h
  split at h
  case h_9 =>
    split at h
    · cases h
    · next u r hu =>
      have first := unit?_length hu
      split at h
      · split at h
        · next v r' hv =>
          cases h
          unfold lowUnit? at hv
          split at hv
          · have second := unit?_length (Option.filter_eq_some_iff.mp hv).1
            simp only [List.length_cons] at *; omega
          · cases hv
        · cases h; simp only [List.length_cons]; omega
      · split at h <;> cases h <;> simp only [List.length_cons] <;> omega
  case h_10 => cases h
  all_goals cases h; simp

/-- Reads a string after its opening quote: its text, or `none` if it holds half a pair; and the rest. -/
def stringTail (cs : List Char) : Option (Option (List Char) × List Char) :=
  match cs with
  | [] => none
  | '"' :: rest => some (some [], rest)
  | '\\' :: rest =>
    match _h : escaped? rest with
    | none => none
    | some (c, left) =>
      (stringTail left).map fun (s, left) => (do some ((← c) :: (← s)), left)
  | c :: rest =>
    if c.toNat < 0x20 then none
    else (stringTail rest).map fun (s, left) => (s.map (c :: ·), left)
termination_by cs.length
decreasing_by
  · have := escaped?_length _h; simp only [List.length_cons]; omega
  · simp

/-- The digits at the head, at least one, and the rest. -/
def digits1? (cs : List Char) : Option (List Char × List Char) :=
  let digits := cs.takeWhile Char.isDigit
  if digits.isEmpty then none else some (digits, cs.drop digits.length)

/-- The digits of a fraction, if one is at the head. -/
def fraction? : List Char → Option (List Char × List Char)
  | '.' :: cs => digits1? cs
  | cs => some ([], cs)

/-- An exponent after its letter. -/
def signed? (cs : List Char) : Option (Int × List Char) := do
  let unsigned := match cs with
    | '-' :: cs | '+' :: cs => cs
    | cs => cs
  let (digits, rest) ← digits1? unsigned
  let n ← digitsFrom 0 digits
  some (if cs.head? == some '-' then -n else n, rest)

/-- An exponent, if one is at the head. -/
def exponent? : List Char → Option (Int × List Char)
  | 'e' :: cs => signed? cs
  | 'E' :: cs => signed? cs
  | cs => some (0, cs)

/-- Takes digits on to a number as long as it stays below 2 to the 64th; how many were taken. -/
def gather (n : Nat) : List Char → Nat × Nat
  | [] => (n, 0)
  | c :: cs =>
    let next := 10 * n + (c.toNat - 48)
    if next ≤ maxWord then
      let (n, count) := gather next cs
      (n, count + 1)
    else (n, 0)

/-- A number rounded to 53 binary digits, a tie to the even neighbour. -/
def toDouble (n : Nat) : Nat :=
  let unit := Nat.pow 2 (n.log2 - 52)
  let (q, r) := (n / unit, n % unit)
  if unit < 2 * r || (unit == 2 * r && q % 2 == 1) then (q + 1) * unit else q * unit

/-- Whether a number is too large for the usual format of 64 bits, as far as its leading digits and its power of
ten tell. -/
def isOutOfRange (whole fraction : List Char) (exponent : Int) : Bool :=
  let (n, count) := gather 0 whole
  let (n, more) := gather n fraction
  let power := exponent + (whole.length - count : Nat) - more
  n != 0 && 0 ≤ power &&
    (308 < power || Nat.pow 2 1024 - Nat.pow 2 970 ≤ toDouble n * toDouble (Nat.pow 10 power.toNat))

/-- Reads a number that has no sign in front; `negative` says that one stood there. -/
def number? (negative : Bool) (cs : List Char) : Option (Json × List Char) := do
  let (whole, rest) ← digits1? cs
  if whole.head? == some '0' && whole.length > 1 then none
  else
    let (fraction, after) ← fraction? rest
    let (exponent, after) ← exponent? after
    let n ← digitsFrom 0 whole
    if isOutOfRange whole fraction exponent then some (.broken, after)
    else if after.length == rest.length && !(negative && n == 0) then
      some (.int (if negative then -n else n), rest)
    else some (.real, after)

/-- An object, if every key holds text. -/
def ofMembers (ms : List (Option (List Char) × Json)) : Json :=
  match ms.mapM fun (k, x) => k.map (·, x) with
  | some ms => .object ms
  | none => .broken

/-- Drops a given word from the head. -/
def word? (w : List Char) (cs : List Char) : Option (List Char) :=
  if w.isPrefixOf cs then some (cs.drop w.length) else none

mutual

/-- Reads the value at the head, blanks before it allowed. Each level of `fuel` reads one token. -/
def value? : Nat → List Char → Option (Json × List Char)
  | 0, _ => none
  | fuel + 1, cs =>
    match skip cs with
    | 'n' :: rest => (word? ['u', 'l', 'l'] rest).map (.null, ·)
    | 't' :: rest => (word? ['r', 'u', 'e'] rest).map (.bool true, ·)
    | 'f' :: rest => (word? ['a', 'l', 's', 'e'] rest).map (.bool false, ·)
    | '"' :: rest => (stringTail rest).map fun (s, rest) => ((s.map Json.text).getD .broken, rest)
    | '-' :: rest => number? true rest
    | '[' :: rest =>
      match skip rest with
      | ']' :: rest => some (.array [], rest)
      | rest => do
        let (x, rest) ← value? fuel rest
        let (xs, rest) ← items? fuel rest
        some (.array (x :: xs), rest)
    | '\x7b' :: rest =>
      match skip rest with
      | '\x7d' :: rest => some (.object [], rest)
      | rest => do
        let (m, rest) ← entry? fuel rest
        let (ms, rest) ← entries? fuel rest
        some (ofMembers (m :: ms), rest)
    | rest => number? false rest

/-- Reads the further items of an array, and its end. -/
def items? : Nat → List Char → Option (List Json × List Char)
  | 0, _ => none
  | fuel + 1, cs =>
    match skip cs with
    | ']' :: rest => some ([], rest)
    | ',' :: rest => do
      let (x, rest) ← value? fuel rest
      let (xs, rest) ← items? fuel rest
      some (x :: xs, rest)
    | _ => none

/-- Reads a key and its value. -/
def entry? : Nat → List Char → Option ((Option (List Char) × Json) × List Char)
  | 0, _ => none
  | fuel + 1, cs =>
    match skip cs with
    | '"' :: rest => do
      let (k, rest) ← stringTail rest
      match skip rest with
      | ':' :: rest => do
        let (x, rest) ← value? fuel rest
        some ((k, x), rest)
      | _ => none
    | _ => none

/-- Reads the further members of an object, and its end. -/
def entries? : Nat → List Char → Option (List (Option (List Char) × Json) × List Char)
  | 0, _ => none
  | fuel + 1, cs =>
    match skip cs with
    | '\x7d' :: rest => some ([], rest)
    | ',' :: rest => do
      let (m, rest) ← entry? fuel rest
      let (ms, rest) ← entries? fuel rest
      some (m :: ms, rest)
    | _ => none

end

/-- Reads a whole text as one value. Every token takes a character, so the length bounds their number. -/
def parse? (cs : List Char) : Option Json := do
  let (x, rest) ← value? (2 * cs.length + 2) cs
  if (skip rest).isEmpty then some x else none

end Json
end Frontier
