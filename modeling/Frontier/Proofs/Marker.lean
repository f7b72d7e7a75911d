import Frontier.Counter

/-!
# Markers read back

A marker that was written is found again, with the text before it, as long as that text has nothing in it that could be
taken for a marker.
-/

namespace Frontier
open Text

namespace Text

theorem isBlank_digit {c : Char} (digit : c.isDigit = true) : isBlank c = false := by
  have range : 48 ≤ c.toNat ∧ c.toNat ≤ 57 := Char.isDigit_iff_toNat.mp digit
  simp [isBlank, blankRanges, inRanges]
  omega

theorem digitsFrom_append (front back : List Char) (seen : Nat) :
    digitsFrom seen (front ++ back) = (digitsFrom seen front).bind fun n => digitsFrom n back := by
  induction front generalizing seen with
  | nil => rfl
  | cons c rest ih =>
    rw [List.cons_append, digitsFrom, digitsFrom]
    split
    · exact ih _
    · rfl

theorem digitsFrom_eq {cs : List Char} (digits : ∀ c ∈ cs, c.isDigit = true) (seen : Nat) :
    digitsFrom seen cs = some (Nat.ofDigitChars 10 cs seen) := by
  induction cs generalizing seen with
  | nil => simp [digitsFrom]
  | cons c rest ih =>
    obtain ⟨first, others⟩ := List.forall_mem_cons.mp digits
    rw [digitsFrom, if_pos first, ih others, Nat.ofDigitChars_cons]

theorem digits_toString {n : Nat} : ∀ c ∈ (toString n).toList, c.isDigit = true := by
  intro c mem
  rw [Nat.toString_eq_repr, Nat.toList_repr] at mem
  exact Nat.isDigit_of_mem_toDigits (by decide) (by decide) mem

theorem toString_ne_nil (n : Nat) : (toString n).toList ≠ [] := by
  rw [Nat.toString_eq_repr, Nat.toList_repr]
  exact List.ne_nil_of_length_pos Nat.length_toDigits_pos

/-- A number is read back from its decimal form. -/
theorem readWord_toString {n : Nat} (small : n ≤ maxWord) : readWord (toString n).toList = some n := by
  have digits := digitsFrom_eq (digits_toString (n := n)) 0
  have value : Nat.ofDigitChars 10 (toString n).toList 0 = n := by
    rw [Nat.toString_eq_repr, Nat.toList_repr, Nat.ofDigitChars_ten_toDigits]
  have empty : (toString n).toList.isEmpty = false := List.isEmpty_eq_false_iff.mpr (toString_ne_nil n)
  rw [readWord, empty, digits, value]
  simp [small]

theorem infix_trimBoth (p : Char → Bool) (cs : List Char) : trimBoth p cs <:+: cs := by
  have back : trimBoth p cs <+: cs.dropWhile p := by
    rw [trimBoth, ← List.reverse_suffix, List.reverse_reverse]
    exact List.dropWhile_suffix p
  exact back.isInfix.trans (List.dropWhile_suffix p).isInfix

theorem trimBoth_cons {p : Char → Bool} {c : Char} (h : p c = true) (cs : List Char) :
    trimBoth p (c :: cs) = trimBoth p cs := by
  simp [trimBoth, h]

end Text

namespace Marker

/-- A marker as it is written. -/
def written (m : Marker) : Written := ⟨(toString m.id).toList, m.tag.toList⟩

theorem written_marker? {m : Marker} (small : m.id ≤ maxWord) : m.written.marker? = some m := by
  rw [written, Written.marker?, readWord_toString small]
  simp

/-- The tag can be read back. -/
def Tagged (m : Marker) : Prop := ∀ c ∈ m.tag.toList, isTagChar c = true

theorem read?_render {m : Marker} (tagged : m.Tagged) (rest : List Char) :
    read? (m.render.toList ++ rest) = some (m.written, rest) := by
  have digits : ∀ c ∈ (toString m.id).toList, isDecimalDigit c = true := by
    intro c mem
    simp [isDecimalDigit, digits_toString c mem]
  have chars : m.render.toList ++ rest =
      '[' :: ((toString m.id).toList ++ '|' :: (m.tag.toList ++ ']' :: '>' :: rest)) := by
    simp [render, String.toList_append]
  have bar : isDecimalDigit '|' = false := by decide
  have close : isTagChar ']' = false := by decide
  have empty : (toString m.id).toList.isEmpty = false := List.isEmpty_eq_false_iff.mpr (toString_ne_nil m.id)
  rw [chars, read?]
  simp only [List.takeWhile_append_of_pos digits, List.dropWhile_append_of_pos digits, List.takeWhile_cons,
    List.dropWhile_cons, bar, Bool.false_eq_true, ↓reduceIte, List.append_nil, List.takeWhile_append_of_pos tagged,
    List.dropWhile_append_of_pos tagged, close, empty, written]

/-- A text in which no marker begins, whatever follows. -/
def Plain : List Char → Prop
  | [] => True
  | c :: rest => (∀ more, read? (c :: (rest ++ more)) = none) ∧ Plain rest

theorem Plain.append {a b : List Char} (first : Plain a) (second : Plain b) : Plain (a ++ b) := by
  induction a with
  | nil => exact second
  | cons c rest ih => exact ⟨fun more => by simpa using first.1 (b ++ more), ih first.2⟩

theorem plain_of_not_mem {text : List Char} (h : '[' ∉ text) : Plain text := by
  induction text with
  | nil => trivial
  | cons c rest ih =>
    obtain ⟨other, more⟩ : '[' ≠ c ∧ '[' ∉ rest := by simpa using h
    refine ⟨fun more => ?_, ih more⟩
    unfold read?
    split
    · next cs same => exact absurd (List.cons.inj same).1 other.symm
    · rfl

/-- A bracket begins no marker unless a digit follows. -/
theorem plain_bracket {c : Char} {rest : List Char} (digit : isDecimalDigit c = false) (bar : c ≠ '|')
    (h : Plain (c :: rest)) : Plain ('[' :: c :: rest) := by
  refine ⟨fun more => ?_, h⟩
  simp only [List.cons_append, read?, List.takeWhile_cons, List.dropWhile_cons, digit, Bool.false_eq_true, ↓reduceIte]
  split
  · next tail same => exact absurd (List.cons.inj same).1 bar
  · rfl

theorem split_plain {text : List Char} (plain : Plain text) : split text = ([], text) := by
  induction text with
  | nil =>
    unfold split
    rfl
  | cons c rest ih =>
    have none : read? (c :: rest) = none := by simpa using plain.1 []
    unfold split
    split
    · next w more some => simp [none] at some
    · show consText c (split rest) = _
      rw [ih plain.2]
      rfl

/-- A text is cut at the first marker after a beginning without one. -/
theorem split_append {text : List Char} (plain : Plain text) {m : Marker} (tagged : m.Tagged) (rest : List Char) :
    split (text ++ (m.render.toList ++ rest)) = ((text, m.written) :: (split rest).1, (split rest).2) := by
  induction text with
  | nil =>
    have found := read?_render tagged rest
    rw [List.nil_append]
    conv => lhs; unfold split
    split
    · next w more some =>
      obtain ⟨rfl, rfl⟩ : m.written = w ∧ rest = more := by simpa [found] using some
      rfl
    · next none => simp [found] at none
  | cons c text ih =>
    have none := plain.1 (m.render.toList ++ rest)
    rw [List.cons_append]
    conv => lhs; unfold split
    split
    · next w more some => simp [none] at some
    · simp only [ih plain.2, consText]

end Marker
end Frontier
