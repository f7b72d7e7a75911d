/-!
# Reading bytes as text

UTF-8 is read one character at a time. Where the bytes form no character, the longest run that could still
have begun one is a single flaw; a lenient reading puts one replacement character in its place.
-/

namespace Frontier.Text.Utf8

/-- What the first byte of a longer character fixes: its payload, how many bytes follow, and the range of the
next one. -/
structure Lead where
  payload : Nat
  more : Nat
  low : UInt8
  high : UInt8
  deriving DecidableEq, Repr

/-- The first bytes of characters of two to four bytes. Overlong forms, surrogates and code points beyond
the last are kept out by the range of the second byte. -/
def lead? (b : UInt8) : Option Lead :=
  if b < 0xC2 then none
  else if b < 0xE0 then some ⟨b.toNat - 0xC0, 1, 0x80, 0xBF⟩
  else if b == 0xE0 then some ⟨0, 2, 0xA0, 0xBF⟩
  else if b == 0xED then some ⟨0xD, 2, 0x80, 0x9F⟩
  else if b < 0xF0 then some ⟨b.toNat - 0xE0, 2, 0x80, 0xBF⟩
  else if b == 0xF0 then some ⟨0, 3, 0x90, 0xBF⟩
  else if b < 0xF4 then some ⟨b.toNat - 0xF0, 3, 0x80, 0xBF⟩
  else if b == 0xF4 then some ⟨4, 3, 0x80, 0x8F⟩
  else none

/-- Reads the bytes that must follow: the character, or `none` for a flaw, and the bytes not used. -/
def follow (value : Nat) (low high : UInt8) : Nat → List UInt8 → Option Char × List UInt8
  | 0, rest => (some (Char.ofNat value), rest)
  | _ + 1, [] => (none, [])
  | more + 1, b :: rest =>
    if low ≤ b && b ≤ high then follow (64 * value + (b.toNat - 0x80)) 0x80 0xBF more rest
    else (none, b :: rest)

/-- Reads the character that begins with the byte `b`, or a flaw. -/
def next (b : UInt8) (rest : List UInt8) : Option Char × List UInt8 :=
  if b < 0x80 then (some (Char.ofNat b.toNat), rest)
  else match lead? b with
    | none => (none, rest)
    | some l => follow l.payload l.low l.high l.more rest

theorem follow_length (value : Nat) (low high : UInt8) (more : Nat) (rest : List UInt8) :
    (follow value low high more rest).2.length ≤ rest.length := by
  fun_induction follow value low high more rest <;> simp_all
  omega

theorem next_length (b : UInt8) (rest : List UInt8) : (next b rest).2.length ≤ rest.length := by
  unfold next
  split
  · simp
  · split
    · simp
    · exact follow_length ..

/-- The character that stands for a flaw. -/
def replacement : Char := '\uFFFD'

/-- Reads all bytes, with one replacement character for each flaw. -/
def lenient : List UInt8 → List Char
  | [] => []
  | b :: rest => (next b rest).1.getD replacement :: lenient (next b rest).2
termination_by bs => bs.length
decreasing_by have := next_length b rest; simp only [List.length_cons]; omega

/-- Reads all bytes, if they hold no flaw. -/
def strict? : List UInt8 → Option (List Char)
  | [] => some []
  | b :: rest => (next b rest).1.bind fun c => (strict? (next b rest).2).map (c :: ·)
termination_by bs => bs.length
decreasing_by have := next_length b rest; simp only [List.length_cons]; omega

/-- Drops the characters of a set from the head; a flaw is in no set. -/
def dropWhile (p : Char → Bool) : List UInt8 → List UInt8
  | [] => []
  | b :: rest =>
    if (next b rest).1.any p then dropWhile p (next b rest).2 else b :: rest
termination_by bs => bs.length
decreasing_by have := next_length b rest; simp only [List.length_cons]; omega

theorem dropWhile_length (p : Char → Bool) (bs : List UInt8) : (dropWhile p bs).length ≤ bs.length := by
  fun_induction dropWhile p bs with
  | case1 => simp
  | case2 b rest h ih => have := next_length b rest; simp only [List.length_cons]; omega
  | case3 => simp

end Frontier.Text.Utf8
