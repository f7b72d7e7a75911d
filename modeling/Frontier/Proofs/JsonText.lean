import Frontier.Json.Value
import Frontier.Proofs.Marker

/-!
# JSON text read back

The compact text of a value is read back as that value, whatever follows that cannot be part of it. Values whose integers
have more than 64 bits are left out, and those that stand for something that is no value.
-/

namespace Frontier.Json
open Text

/-! ## Strings -/

theorem hexValue?_hexChar {n : Nat} (digit : n < 16) : hexValue? (hexChar n) = some n := by
  have all : ∀ n < 16, hexValue? (hexChar n) = some n := by decide
  exact all n digit

theorem stringTail_escaped {c : Char} {rest left : List Char} (reads : escaped? rest = some (some c, left)) :
    stringTail ('\\' :: rest) = (stringTail left).map fun p => (p.1.map (c :: ·), p.2) := by
  rw [stringTail]
  split
  · next none => simp [reads] at none
  · next c' left' same =>
    obtain ⟨rfl, rfl⟩ : c' = some c ∧ left' = left := by simpa [reads, eq_comm] using same
    refine congrArg (Option.map · _) (funext fun p => ?_)
    obtain ⟨_ | s, more⟩ := p <;> rfl

theorem stringTail_plain {c : Char} (rest : List Char) (quote : c ≠ '"') (back : c ≠ '\\') (shown : ¬ c.toNat < 0x20) :
    stringTail (c :: rest) = (stringTail rest).map fun p => (p.1.map (c :: ·), p.2) := by
  rw [stringTail.eq_def]
  split
  · next none => cases none
  · next same => exact absurd (List.cons.inj same).1 quote
  · next same => exact absurd (List.cons.inj same).1 back
  · next same =>
    obtain ⟨rfl, rfl⟩ := List.cons.inj same
    rw [if_neg shown]

/-- A control character that has no letter of its own. -/
theorem escaped?_control {c : Char} (control : c.toNat < 0x20) (rest : List Char) :
    escaped? ('u' :: '0' :: '0' :: hexChar (c.toNat / 16) :: hexChar (c.toNat % 16) :: rest) = some (some c, rest) := by
  have zero : hexValue? '0' = some 0 := by decide
  have high : hexValue? (hexChar (c.toNat / 16)) = some (c.toNat / 16) := hexValue?_hexChar (by omega)
  have low : hexValue? (hexChar (c.toNat % 16)) = some (c.toNat % 16) := hexValue?_hexChar (by omega)
  have value : ((0 * 16 + 0) * 16 + c.toNat / 16) * 16 + c.toNat % 16 = c.toNat := by omega
  have unit : unit? ('0' :: '0' :: hexChar (c.toNat / 16) :: hexChar (c.toNat % 16) :: rest) = some (c.toNat, rest) := by
    simp only [unit?, zero, high, low, Option.bind_eq_bind, Option.bind_some, value]
  have below : ¬ 0xD800 ≤ c.toNat := by omega
  have below' : ¬ 0xDC00 ≤ c.toNat := by omega
  simp only [escaped?, unit, below, below', decide_false, Bool.false_and, Bool.false_eq_true, ↓reduceIte, Char.ofNat_toNat]

/-- What is written for a character is read as that character. -/
theorem stringTail_escape (c : Char) (rest : List Char) :
    stringTail (escape c ++ rest) = (stringTail rest).map fun p => (p.1.map (c :: ·), p.2) := by
  unfold escape
  split
  · next same => obtain rfl := eq_of_beq same; exact stringTail_escaped rfl
  split
  · next same => obtain rfl := eq_of_beq same; exact stringTail_escaped rfl
  split
  · next same => obtain rfl := eq_of_beq same; exact stringTail_escaped rfl
  split
  · next same => obtain rfl := eq_of_beq same; exact stringTail_escaped rfl
  split
  · next same => obtain rfl := eq_of_beq same; exact stringTail_escaped rfl
  split
  · next same => obtain rfl := eq_of_beq same; exact stringTail_escaped rfl
  split
  · next same => obtain rfl := eq_of_beq same; exact stringTail_escaped rfl
  split
  · next control => exact stringTail_escaped (escaped?_control control rest)
  · next quote back _ _ _ _ _ shown =>
    exact stringTail_plain rest (by simpa using quote) (by simpa using back) shown

theorem stringTail_quote (s rest : List Char) : stringTail (s.flatMap escape ++ '"' :: rest) = some (some s, rest) := by
  induction s with
  | nil => rw [List.flatMap_nil, List.nil_append, stringTail]
  | cons c more ih => rw [List.flatMap_cons, List.append_assoc, stringTail_escape, ih]; rfl

/-! ## Integers -/

/-- A text that does not go on with a number. -/
def Stops (rest : List Char) : Prop :=
  ∀ c ∈ rest.head?, c.isDigit = false ∧ c ≠ '.' ∧ c ≠ 'e' ∧ c ≠ 'E'

theorem digitsFrom_le {cs : List Char} {seen n : Nat} (reads : digitsFrom seen cs = some n) : seen ≤ n := by
  induction cs generalizing seen with
  | nil => exact Nat.le_of_eq (Option.some.inj reads)
  | cons c rest ih =>
    rw [digitsFrom] at reads
    split at reads
    · have := ih reads
      omega
    · cases reads

/-- All digits of a number below 2 to the 64th are taken. -/
theorem gather_eq {cs : List Char} {seen n : Nat} (reads : digitsFrom seen cs = some n) (small : n ≤ maxWord) :
    gather seen cs = (n, cs.length) := by
  induction cs generalizing seen with
  | nil => rw [gather, Option.some.inj reads]; rfl
  | cons c rest ih =>
    rw [digitsFrom] at reads
    split at reads
    · have later : gather (10 * seen + (c.toNat - 48)) rest = (n, rest.length) := ih reads
      have within : 10 * seen + (c.toNat - 48) ≤ maxWord := Nat.le_trans (digitsFrom_le reads) small
      simp only [gather, within, ↓reduceIte, later, List.length_cons]
    · cases reads

/-- Rounding less than doubles a number. -/
theorem toDouble_le {n : Nat} (some : n ≠ 0) : toDouble n ≤ 2 * n := by
  have unit : Nat.pow 2 (n.log2 - 52) ≤ n :=
    Nat.le_trans (Nat.pow_le_pow_right (by decide) (Nat.sub_le _ _)) (Nat.log2_self_le some)
  have whole : n / Nat.pow 2 (n.log2 - 52) * Nat.pow 2 (n.log2 - 52) ≤ n := Nat.div_mul_le_self _ _
  simp only [toDouble]
  split
  · rw [Nat.add_mul]
    omega
  · omega

/-- An integer below 2 to the 64th is in range. -/
theorem isOutOfRange_word {cs : List Char} {n : Nat} (reads : digitsFrom 0 cs = some n) (small : n ≤ maxWord) :
    isOutOfRange cs [] 0 = false := by
  have one : toDouble (Nat.pow 10 0) = 1 := by decide
  have range : 2 * maxWord < Nat.pow 2 1024 - Nat.pow 2 970 := by decide +kernel
  simp only [isOutOfRange, gather_eq reads small, gather, Nat.sub_self]
  generalize Nat.pow 2 1024 - Nat.pow 2 970 = bound at range ⊢
  by_cases zero : n = 0
  · simp [zero]
  · have rounded := toDouble_le zero
    have below : ¬ bound ≤ toDouble n * toDouble (Nat.pow 10 0) := by
      rw [one]
      omega
    have unshifted : (0 : Int) + (0 : Nat) - (0 : Nat) = 0 := rfl
    have near : ¬ (308 : Int) < 0 := by decide
    simp only [unshifted, near, Int.toNat_zero, below, decide_false, Bool.or_false, Bool.and_false]

theorem toDigits_read (n : Nat) : digitsFrom 0 (Nat.toDigits 10 n) = some n := by
  rw [digitsFrom_eq fun c mem => Nat.isDigit_of_mem_toDigits (by decide) (by decide) mem, Nat.ofDigitChars_ten_toDigits]

/-- Only zero is written with a zero in front. -/
theorem eq_zero_of_head? {n : Nat} (zero : (Nat.toDigits 10 n).head? = some '0') : n = 0 := by
  induction n using Nat.strongRecOn with
  | ind n ih =>
    by_cases small : n < 10
    · have digits : ∀ n < 10, Nat.digitChar n = '0' → n = 0 := by decide
      rw [Nat.toDigits_of_lt_base small] at zero
      exact digits n small (Option.some.inj zero)
    · rw [Nat.toDigits_of_base_le (by decide) (Nat.not_lt.mp small), List.head?_append,
        List.head?_eq_some_head Nat.toDigits_ne_nil, Option.some_or, ← List.head?_eq_some_head] at zero
      have front := ih (n / 10) (by omega) zero
      omega

theorem digits1?_append {digits rest : List Char} (all : ∀ c ∈ digits, c.isDigit = true) (some : digits ≠ [])
    (stops : Stops rest) : digits1? (digits ++ rest) = Option.some (digits, rest) := by
  have next : rest.takeWhile Char.isDigit = [] := by
    cases rest with
    | nil => rfl
    | cons c more => rw [List.takeWhile_cons_of_neg (by simp [(stops c rfl).1])]
  have taken : (digits ++ rest).takeWhile Char.isDigit = digits := by
    rw [List.takeWhile_append_of_pos all, next, List.append_nil]
  simp [digits1?, taken, some]

theorem number?_toDigits {n : Nat} (small : n ≤ maxWord) {rest : List Char} (stops : Stops rest) (negative : Bool)
    (sign : negative = true → n ≠ 0) :
    number? negative (Nat.toDigits 10 n ++ rest) = some (.int (if negative then -n else n), rest) := by
  have digits : ∀ c ∈ Nat.toDigits 10 n, c.isDigit = true :=
    fun c mem => Nat.isDigit_of_mem_toDigits (by decide) (by decide) mem
  have fraction : fraction? rest = some ([], rest) := by
    unfold fraction?
    split
    · exact absurd rfl (stops '.' rfl).2.1
    · rfl
  have exponent : exponent? rest = some (0, rest) := by
    unfold exponent?
    split
    · exact absurd rfl (stops 'e' rfl).2.2.1
    · exact absurd rfl (stops 'E' rfl).2.2.2
    · rfl
  have read := toDigits_read n
  have lean : ((Nat.toDigits 10 n).head? == some '0' && decide ((Nat.toDigits 10 n).length > 1)) = false := by
    by_cases zero : (Nat.toDigits 10 n).head? = some '0'
    · simp [eq_zero_of_head? zero]
    · simp [zero]
  have signed : (negative && n == 0) = false := by
    cases negative with
    | false => rfl
    | true => simpa using sign rfl
  simp only [number?, digits1?_append digits Nat.toDigits_ne_nil stops, fraction, exponent, read, lean, signed,
    isOutOfRange_word read small, Option.bind_eq_bind, Option.bind_some, Bool.false_eq_true, ↓reduceIte, beq_self_eq_true,
    Bool.not_false, Bool.and_self]

/-! ## What the first character tells -/

section First
variable (fuel : Nat) (rest : List Char)

theorem value?_null : value? (fuel + 1) ('n' :: rest) = (word? ['u', 'l', 'l'] rest).map (.null, ·) := rfl

theorem value?_true : value? (fuel + 1) ('t' :: rest) = (word? ['r', 'u', 'e'] rest).map (.bool true, ·) := rfl

theorem value?_false : value? (fuel + 1) ('f' :: rest) = (word? ['a', 'l', 's', 'e'] rest).map (.bool false, ·) := rfl

theorem value?_quote : value? (fuel + 1) ('"' :: rest) =
    (stringTail rest).map fun (s, rest) => ((s.map Json.text).getD .broken, rest) := rfl

theorem value?_minus : value? (fuel + 1) ('-' :: rest) = number? true rest := rfl

theorem value?_array : value? (fuel + 1) ('[' :: rest) = (match skip rest with
    | ']' :: rest => some (.array [], rest)
    | rest => do
      let (x, rest) ← value? fuel rest
      let (xs, rest) ← items? fuel rest
      some (.array (x :: xs), rest)) := rfl

theorem items?_end : items? (fuel + 1) (']' :: rest) = some ([], rest) := rfl

theorem items?_next : items? (fuel + 1) (',' :: rest) = (do
    let (x, rest) ← value? fuel rest
    let (xs, rest) ← items? fuel rest
    some (x :: xs, rest)) := rfl

theorem value?_object : value? (fuel + 1) ('\x7b' :: rest) = (match skip rest with
    | '\x7d' :: rest => some (.object [], rest)
    | rest => do
      let (m, rest) ← entry? fuel rest
      let (ms, rest) ← entries? fuel rest
      some (ofMembers (m :: ms), rest)) := rfl

theorem entry?_quote : entry? (fuel + 1) ('"' :: rest) = (do
    let (k, rest) ← stringTail rest
    match skip rest with
    | ':' :: rest => do
      let (x, rest) ← value? fuel rest
      some ((k, x), rest)
    | _ => none) := rfl

theorem entries?_end : entries? (fuel + 1) ('\x7d' :: rest) = some ([], rest) := rfl

theorem entries?_next : entries? (fuel + 1) (',' :: rest) = (do
    let (m, rest) ← entry? fuel rest
    let (ms, rest) ← entries? fuel rest
    some (m :: ms, rest)) := rfl

end First

/-! ## Values -/

/-- A value that is written as it is. -/
inductive Exact : Json → Prop
  | null : Exact .null
  | bool (b : Bool) : Exact (.bool b)
  | int {n : Int} (small : n.natAbs ≤ maxWord) : Exact (.int n)
  | text (s : List Char) : Exact (.text s)
  | array {xs : List Json} (items : ∀ x ∈ xs, Exact x) : Exact (.array xs)
  | object {ms : List (List Char × Json)} (members : ∀ m ∈ ms, Exact m.2) : Exact (.object ms)

/-- The value is read back, with a level of fuel for each character. -/
def Reads (x : Json) : Prop :=
  ∀ fuel rest, (write x).length ≤ fuel → Stops rest → value? fuel (write x ++ rest) = some (x, rest)

theorem exists_fuel {c : Char} {more : List Char} {fuel : Nat} (enough : (c :: more).length ≤ fuel) :
    ∃ left, fuel = left + 1 :=
  Nat.exists_eq_add_one.mpr (Nat.lt_of_lt_of_le (Nat.succ_pos _) enough)

theorem skip_of_not_space {c : Char} (shown : isSpace c = false) (rest : List Char) : skip (c :: rest) = c :: rest :=
  List.dropWhile_cons_of_neg (by simp [shown])

theorem word?_append (w rest : List Char) : word? w (w ++ rest) = some rest := by
  rw [word?, if_pos (List.isPrefixOf_iff_prefix.mpr (List.prefix_append w rest)), List.drop_left]

theorem reads_null : Reads .null := by
  intro fuel rest enough _
  obtain ⟨fuel, rfl⟩ := exists_fuel enough
  have letters : word? ['u', 'l', 'l'] ('u' :: 'l' :: 'l' :: rest) = some rest := word?_append _ rest
  show value? (fuel + 1) ('n' :: 'u' :: 'l' :: 'l' :: rest) = _
  rw [value?_null, letters, Option.map_some]

theorem reads_bool (b : Bool) : Reads (.bool b) := by
  intro fuel rest enough _
  cases b with
  | true =>
    obtain ⟨fuel, rfl⟩ := exists_fuel enough
    have letters : word? ['r', 'u', 'e'] ('r' :: 'u' :: 'e' :: rest) = some rest := word?_append _ rest
    show value? (fuel + 1) ('t' :: 'r' :: 'u' :: 'e' :: rest) = _
    rw [value?_true, letters, Option.map_some]
  | false =>
    obtain ⟨fuel, rfl⟩ := exists_fuel enough
    have letters : word? ['a', 'l', 's', 'e'] ('a' :: 'l' :: 's' :: 'e' :: rest) = some rest := word?_append _ rest
    show value? (fuel + 1) ('f' :: 'a' :: 'l' :: 's' :: 'e' :: rest) = _
    rw [value?_false, letters, Option.map_some]

theorem isSpace_digit {c : Char} (digit : c.isDigit = true) : isSpace c = false := by
  cases space : isSpace c with
  | false => rfl
  | true =>
    simp only [isSpace, Bool.or_eq_true, beq_iff_eq] at space
    rcases space with ((rfl | rfl) | rfl) | rfl <;> exact absurd digit (by decide)

theorem value?_digit {c : Char} (digit : c.isDigit = true) (fuel : Nat) (rest : List Char) :
    value? (fuel + 1) (c :: rest) = number? false (c :: rest) := by
  rw [value?, skip_of_not_space (isSpace_digit digit)]
  split
  case h_8 => rfl
  all_goals
    next same =>
    obtain ⟨rfl, -⟩ := List.cons.inj same
    exact absurd digit (by decide)

theorem toDigits_cons (n : Nat) : ∃ c more, Nat.toDigits 10 n = c :: more ∧ c.isDigit = true := by
  obtain ⟨c, more, digits⟩ := List.exists_cons_of_ne_nil (Nat.toDigits_ne_nil (n := n) (b := 10))
  exact ⟨c, more, digits,
    Nat.isDigit_of_mem_toDigits (by decide) (by decide) (digits ▸ List.mem_cons_self (a := c) (l := more))⟩

theorem reads_int {n : Int} (small : n.natAbs ≤ maxWord) : Reads (.int n) := by
  intro fuel rest enough stops
  cases n with
  | ofNat n =>
    obtain ⟨c, more, digits, digit⟩ := toDigits_cons n
    have value := number?_toDigits (n := n) small stops false (by simp)
    rw [write, intChars, digits] at enough ⊢
    rw [digits, List.cons_append] at value
    obtain ⟨fuel, rfl⟩ := exists_fuel enough
    rw [List.cons_append, value?_digit digit, value]
    rfl
  | negSucc n =>
    have value := number?_toDigits (n := n + 1) small stops true (by simp)
    rw [write, intChars] at enough ⊢
    obtain ⟨fuel, rfl⟩ := exists_fuel enough
    rw [List.cons_append, value?_minus]
    exact value

theorem reads_text (s : List Char) : Reads (.text s) := by
  intro fuel rest enough stops
  rw [write, quote] at enough ⊢
  obtain ⟨fuel, rfl⟩ := exists_fuel enough
  rw [List.cons_append, List.append_assoc, value?_quote]
  simp only [List.singleton_append, stringTail_quote, Option.map_some, Option.getD_some]

/-- No value begins with a blank, or with the end of an array. -/
theorem Exact.write_cons {x : Json} (exact : Exact x) :
    ∃ c more, write x = c :: more ∧ isSpace c = false ∧ c ≠ ']' := by
  cases exact with
  | null => exact ⟨_, _, rfl, by decide, by decide⟩
  | bool b => cases b <;> exact ⟨_, _, rfl, by decide, by decide⟩
  | text s => exact ⟨_, _, rfl, by decide, by decide⟩
  | array items => rename_i xs; cases xs <;> exact ⟨_, _, rfl, by decide, by decide⟩
  | object members => rename_i ms; cases ms <;> exact ⟨_, _, rfl, by decide, by decide⟩
  | int small =>
    rename_i n
    cases n with
    | ofNat n =>
      obtain ⟨c, more, digits, digit⟩ := toDigits_cons n
      refine ⟨c, more, digits, isSpace_digit digit, ?_⟩
      rintro rfl
      exact absurd digit (by decide)
    | negSucc n => exact ⟨_, _, rfl, by decide, by decide⟩

theorem stops_items (xs : List Json) (rest : List Char) : Stops (writeItems xs ++ rest) := by
  cases xs <;> rintro c ⟨⟩ <;> decide

theorem stops_members (ms : List (List Char × Json)) (rest : List Char) : Stops (writeMembers ms ++ rest) := by
  cases ms <;> rintro c ⟨⟩ <;> decide

theorem reads_items {xs : List Json} (reads : ∀ x ∈ xs, Reads x) (fuel : Nat) (rest : List Char)
    (enough : (writeItems xs).length ≤ fuel) : items? fuel (writeItems xs ++ rest) = some (xs, rest) := by
  induction xs generalizing fuel with
  | nil =>
    rw [writeItems] at enough ⊢
    obtain ⟨fuel, rfl⟩ := exists_fuel enough
    exact items?_end fuel rest
  | cons x more ih =>
    obtain ⟨first, others⟩ := List.forall_mem_cons.mp reads
    rw [writeItems] at enough ⊢
    obtain ⟨fuel, rfl⟩ := exists_fuel enough
    simp only [List.length_cons, List.length_append] at enough
    rw [List.cons_append, items?_next, List.append_assoc]
    simp only [first fuel _ (by omega) (stops_items more rest), ih others fuel (by omega), Option.bind_eq_bind,
      Option.bind_some]

theorem reads_array {xs : List Json} (exact : ∀ x ∈ xs, Exact x) (reads : ∀ x ∈ xs, Reads x) : Reads (.array xs) := by
  intro fuel rest enough stops
  cases xs with
  | nil =>
    rw [write] at enough ⊢
    obtain ⟨fuel, rfl⟩ := exists_fuel enough
    rw [List.cons_append, List.singleton_append, value?_array]
    rfl
  | cons x more =>
    obtain ⟨c, tail, begins, shown, open'⟩ := (exact x List.mem_cons_self).write_cons
    obtain ⟨first, others⟩ := List.forall_mem_cons.mp reads
    rw [write] at enough ⊢
    obtain ⟨fuel, rfl⟩ := exists_fuel enough
    simp only [List.length_cons, List.length_append] at enough
    have value := first fuel _ (by omega) (stops_items more rest)
    have items := reads_items others fuel rest (by omega)
    rw [List.cons_append, List.append_assoc, value?_array]
    rw [begins, List.cons_append] at value ⊢
    simp only [skip_of_not_space shown]
    split
    · next same => exact absurd (List.cons.inj same).1 open'
    · simp only [value, items, Option.bind_eq_bind, Option.bind_some]

theorem reads_entry {x : Json} (reads : Reads x) (k : List Char) (fuel : Nat) {rest : List Char}
    (enough : (write x).length < fuel) (stops : Stops rest) :
    entry? fuel (quote k ++ ':' :: (write x ++ rest)) = some ((some k, x), rest) := by
  obtain ⟨fuel, rfl⟩ := Nat.exists_eq_add_one.mpr (Nat.lt_of_le_of_lt (Nat.zero_le _) enough)
  rw [quote, List.cons_append, List.append_assoc, entry?_quote]
  simp only [List.singleton_append, stringTail_quote, skip_of_not_space (show isSpace ':' = false by decide),
    reads fuel rest (Nat.le_of_lt_succ enough) stops, Option.bind_eq_bind, Option.bind_some]

theorem reads_entries {ms : List (List Char × Json)} (reads : ∀ m ∈ ms, Reads m.2) (fuel : Nat) (rest : List Char)
    (enough : (writeMembers ms).length ≤ fuel) :
    entries? fuel (writeMembers ms ++ rest) = some (ms.map fun m => (some m.1, m.2), rest) := by
  induction ms generalizing fuel with
  | nil =>
    rw [writeMembers] at enough ⊢
    obtain ⟨fuel, rfl⟩ := exists_fuel enough
    exact entries?_end fuel rest
  | cons m more ih =>
    obtain ⟨first, others⟩ := List.forall_mem_cons.mp reads
    rw [writeMembers] at enough ⊢
    obtain ⟨fuel, rfl⟩ := exists_fuel enough
    simp only [List.length_cons, List.length_append] at enough
    have entry := reads_entry first m.1 fuel (by omega) (stops_members more rest)
    rw [List.cons_append, entries?_next]
    simp only [List.append_assoc, List.cons_append, entry, ih others fuel (by omega), Option.bind_eq_bind,
      Option.bind_some, List.map_cons]

theorem mapM_map_some {β γ δ : Type} {f : β → Option γ} {g : δ → β} {h : δ → γ} {xs : List δ}
    (each : ∀ x ∈ xs, f (g x) = some (h x)) : (xs.map g).mapM f = some (xs.map h) := by
  induction xs with
  | nil => rfl
  | cons x more ih =>
    obtain ⟨first, others⟩ := List.forall_mem_cons.mp each
    simp [List.mapM_cons, first, ih others]

theorem ofMembers_keys (ms : List (List Char × Json)) : ofMembers (ms.map fun m => (some m.1, m.2)) = .object ms := by
  rw [ofMembers, mapM_map_some (h := id), List.map_id]
  exact fun m _ => rfl

theorem reads_object {ms : List (List Char × Json)} (reads : ∀ m ∈ ms, Reads m.2) : Reads (.object ms) := by
  intro fuel rest enough stops
  cases ms with
  | nil =>
    rw [write] at enough ⊢
    obtain ⟨fuel, rfl⟩ := exists_fuel enough
    rw [List.cons_append, List.singleton_append, value?_object]
    rfl
  | cons m more =>
    obtain ⟨first, others⟩ := List.forall_mem_cons.mp reads
    rw [write] at enough ⊢
    obtain ⟨fuel, rfl⟩ := exists_fuel enough
    simp only [List.length_cons, List.length_append] at enough
    have entry := reads_entry first m.1 fuel (by omega) (stops_members more rest)
    have entries := reads_entries others fuel rest (by omega)
    rw [List.cons_append, value?_object]
    rw [quote] at entry ⊢
    simp only [List.append_assoc, List.cons_append] at entry ⊢
    simp only [skip_of_not_space (show isSpace '"' = false by decide)]
    split
    · next same => exact absurd (List.cons.inj same).1 (by decide)
    · simp only [entry, entries, Option.bind_eq_bind, Option.bind_some]
      exact congrArg (fun x => some (x, rest)) (ofMembers_keys (m :: more))

theorem Exact.reads {x : Json} (exact : Exact x) : Reads x := by
  induction exact with
  | null => exact reads_null
  | bool b => exact reads_bool b
  | int small => exact reads_int small
  | text s => exact reads_text s
  | array items ih => exact reads_array items ih
  | object members ih => exact reads_object ih

/-- A value is read back from its compact text. -/
theorem parse?_write {x : Json} (exact : Exact x) : parse? (write x) = some x := by
  have value := exact.reads (2 * (write x).length + 2) [] (by omega) (by rintro c ⟨⟩)
  rw [List.append_nil] at value
  simp only [parse?, value, Option.bind_eq_bind, Option.bind_some]
  rfl

end Frontier.Json
