/-!
# Byte offsets into text

Texts are lists of characters, and positions in them are byte offsets of their UTF-8 form.
`bytes` measures a text, and `splitAt` turns an offset into a split of the characters:
an offset inside a character counts as the boundary after it.
-/

namespace Frontier.Text

/-- The length of a text in bytes. -/
def bytes : List Char → Nat
  | [] => 0
  | c :: rest => c.utf8Size + bytes rest

@[simp] theorem bytes_nil : bytes [] = 0 := rfl

@[simp] theorem bytes_cons (c : Char) (rest : List Char) : bytes (c :: rest) = c.utf8Size + bytes rest := rfl

@[simp] theorem bytes_append (xs ys : List Char) : bytes (xs ++ ys) = bytes xs + bytes ys := by
  induction xs with
  | nil => simp
  | cons c xs ih => simp [ih, Nat.add_assoc]

theorem bytes_pos {xs : List Char} (h : xs ≠ []) : 0 < bytes xs := by
  cases xs with
  | nil => exact absurd rfl h
  | cons c xs => have := c.utf8Size_pos; simp only [bytes_cons]; omega

/-- Splits a text at the first character boundary at or after a byte offset. -/
def splitAt : Nat → List Char → List Char × List Char
  | _, [] => ([], [])
  | 0, rest => ([], rest)
  | n, c :: rest =>
    let (before, after) := splitAt (n - c.utf8Size) rest
    (c :: before, after)

/-- Splitting loses nothing. -/
theorem splitAt_append (n : Nat) (xs : List Char) : (splitAt n xs).1 ++ (splitAt n xs).2 = xs := by
  induction xs generalizing n with
  | nil => simp [splitAt]
  | cons c xs ih =>
    cases n with
    | zero => simp [splitAt]
    | succ n => simpa [splitAt] using ih (n + 1 - c.utf8Size)

/-- A boundary between characters splits a text there. -/
theorem splitAt_bytes (taken left : List Char) : splitAt (bytes taken) (taken ++ left) = (taken, left) := by
  induction taken with
  | nil => cases left <;> rfl
  | cons c rest ih =>
    obtain ⟨n, size⟩ : ∃ n, bytes (c :: rest) = n + 1 := ⟨bytes (c :: rest) - 1, by
      have := bytes_pos (List.cons_ne_nil c rest)
      omega⟩
    rw [List.cons_append, size, splitAt]
    · rw [show n + 1 - c.utf8Size = bytes rest by rw [bytes_cons] at size; omega, ih]
    · omega

end Frontier.Text
