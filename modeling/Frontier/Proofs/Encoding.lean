import Frontier.Text.Measure

/-!
# Characters as bytes

The UTF-8 form of a text, byte by byte. An ASCII character is a single byte, and no other character has that byte in it,
so that whoever looks for ASCII characters may look at bytes alone.
-/

namespace Frontier.Text

/-- The UTF-8 form of a string. -/
def utf8 (text : String) : List UInt8 := text.toByteArray.data.toList

/-- The UTF-8 form of a list of characters. -/
def encode (cs : List Char) : List UInt8 := cs.flatMap String.utf8EncodeChar

theorem encode_cons (c : Char) (cs : List Char) : encode (c :: cs) = encode [c] ++ encode cs := by
  simp [encode]

theorem encode_append (xs ys : List Char) : encode (xs ++ ys) = encode xs ++ encode ys := List.flatMap_append

theorem encode_singleton (c : Char) : encode [c] = String.utf8EncodeChar c := List.append_nil _

theorem length_encode (cs : List Char) : (encode cs).length = bytes cs := by
  induction cs with
  | nil => rfl
  | cons c cs ih =>
    rw [encode_cons, encode_singleton, List.length_append, String.length_utf8EncodeChar, ih, bytes_cons]

theorem utf8_eq (text : String) : utf8 text = encode text.toList := by
  unfold utf8
  conv => lhs; rw [← String.ofList_toList (s := text), String.toByteArray_ofList]
  simp [List.utf8Encode, encode]

theorem encode_ofList (cs : List Char) : utf8 (String.ofList cs) = encode cs := by
  rw [utf8_eq, String.toList_ofList]

theorem encode_head (c : Char) : ∃ b bs, encode [c] = b :: bs ∧ c.utf8Size = bs.length + 1 := by
  have size := length_encode [c]
  have some := c.utf8Size_pos
  cases own : encode [c] with
  | nil =>
    rw [own, List.length_nil, bytes_cons] at size
    omega
  | cons b bs =>
    rw [own, List.length_cons, bytes_cons, bytes_nil] at size
    exact ⟨b, bs, rfl, size.symm⟩

/-! ## ASCII -/

variable {c d x y : Char} {cs rest : List Char}

theorem encode_small (small : c.val ≤ 127) : encode [c] = [c.toUInt8] := by
  rw [encode_singleton]
  exact String.utf8EncodeChar_eq_singleton (Char.utf8Size_eq_one_iff.mpr small)

/-- A character is one ASCII byte, or there is no ASCII byte in it. -/
theorem encode_cases (c : Char) : (c.val ≤ 127 ∧ encode [c] = [c.toUInt8]) ∨
    (¬ c.val ≤ 127 ∧ ∀ b ∈ encode [c], 0x80 ≤ b) := by
  by_cases ascii : c.val ≤ 127
  · exact .inl ⟨ascii, encode_small ascii⟩
  · have large : ¬ c.val.toNat ≤ 127 := fun small => ascii (UInt32.le_iff_toNat_le.mpr small)
    refine .inr ⟨ascii, ?_⟩
    rw [encode_singleton, String.utf8EncodeChar]
    simp only [large, ↓reduceIte]
    split
    · simp [UInt8.le_iff_toNat_le]
      omega
    · split
      · simp [UInt8.le_iff_toNat_le]
        omega
      · simp [UInt8.le_iff_toNat_le]
        omega

theorem toNat_byte (small : c.val ≤ 127) : c.toUInt8.toNat = c.val.toNat ∧ c.val.toNat ≤ 127 := by
  have bound : c.val.toNat ≤ 127 := UInt32.le_iff_toNat_le.mp small
  rw [Char.toUInt8, UInt32.toNat_toUInt8]
  omega

theorem byte_inj (small : c.val ≤ 127) (ascii : d.val ≤ 127) : c.toUInt8 = d.toUInt8 ↔ c = d := by
  refine ⟨fun same => ?_, fun same => by rw [same]⟩
  apply Char.ext
  apply UInt32.toNat_inj.mp
  rw [← (toNat_byte small).1, ← (toNat_byte ascii).1, same]

theorem byte_lt (ascii : d.val ≤ 127) : d.toUInt8 < 0x80 := by
  obtain ⟨same, bound⟩ := toNat_byte ascii
  rw [UInt8.lt_iff_toNat_lt, same]
  exact Nat.lt_succ_of_le bound

theorem encode_ascii (ascii : d.val ≤ 127) {more : List UInt8} (same : encode cs = d.toUInt8 :: more) :
    ∃ rest, cs = d :: rest := by
  cases cs with
  | nil => cases same
  | cons c rest =>
    rw [encode_cons] at same
    rcases encode_cases c with ⟨small, alone⟩ | ⟨-, high⟩
    · rw [alone] at same
      exact ⟨rest, by rw [(byte_inj small ascii).mp (List.cons.inj same).1]⟩
    · obtain ⟨b, bs, own, -⟩ := encode_head c
      rw [own] at same high
      have above := high b List.mem_cons_self
      rw [(List.cons.inj same).1] at above
      exact absurd (byte_lt ascii) (UInt8.not_lt.mpr above)

/-- Bytes form no pair of ASCII characters that the characters do not form. -/
theorem unpaired (small : c.val ≤ 127) (first : x.val ≤ 127) (second : y.val ≤ 127)
    (other : ∀ more, c = x → rest = y :: more → False) :
    ∀ more, c.toUInt8 = x.toUInt8 → encode rest = y.toUInt8 :: more → False := by
  intro more same next
  obtain ⟨rest', whole⟩ := encode_ascii second next
  exact other rest' ((byte_inj small first).mp same) whole

end Frontier.Text
