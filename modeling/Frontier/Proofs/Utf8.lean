import Frontier.Text.Utf8
import Mathlib.Tactic.SplitIfs

/-!
# Bytes read in parts

A character is read from its own bytes, whatever follows them. An ASCII byte belongs to no longer character and to no
flaw, so that bytes may be read for themselves up to it and from it on.
-/

namespace Frontier.Text.Utf8

variable {c : Char} {b : UInt8} {bs left : List UInt8}

theorem follow_more {value more : Nat} {low high : UInt8} (read : follow value low high more bs = (some c, left))
    (rest : List UInt8) : follow value low high more (bs ++ rest) = (some c, left ++ rest) := by
  fun_induction follow value low high more bs with
  | case1 value low high bs =>
    cases read
    rfl
  | case2 => cases read
  | case3 value low high more b bs inside ih =>
    rw [List.cons_append, follow, if_pos inside]
    exact ih read
  | case4 => cases read

theorem follow_used {value more : Nat} {low high : UInt8} (read : follow value low high more bs = (some c, left)) :
    ∃ used, bs = used ++ left ∧ follow value low high more used = (some c, []) := by
  fun_induction follow value low high more bs with
  | case1 value low high bs =>
    cases read
    exact ⟨[], rfl, rfl⟩
  | case2 => cases read
  | case3 value low high more b bs inside ih =>
    obtain ⟨used, rfl, same⟩ := ih read
    exact ⟨b :: used, rfl, by rw [follow, if_pos inside, same]⟩
  | case4 => cases read

/-- What follows a character does not change it. -/
theorem next_more (read : next b bs = (some c, left)) (rest : List UInt8) :
    next b (bs ++ rest) = (some c, left ++ rest) := by
  unfold next at read ⊢
  by_cases ascii : b < 0x80
  · rw [if_pos ascii] at read ⊢
    cases read
    rfl
  · rw [if_neg ascii] at read ⊢
    cases lead : lead? b with
    | none => simp [lead] at read
    | some l =>
      rw [lead] at read
      exact follow_more read rest

/-- A character is read from its own bytes. -/
theorem next_used (read : next b bs = (some c, left)) : ∃ used, bs = used ++ left ∧ next b used = (some c, []) := by
  unfold next at read ⊢
  by_cases ascii : b < 0x80
  · rw [if_pos ascii] at read
    cases read
    exact ⟨[], rfl, by rw [if_pos ascii]⟩
  · rw [if_neg ascii] at read
    cases lead : lead? b with
    | none => simp [lead] at read
    | some l =>
      rw [lead] at read
      obtain ⟨used, split, same⟩ := follow_used read
      exact ⟨used, split, by rw [if_neg ascii]; exact same⟩

/-! ## ASCII bytes -/

theorem lead?_low {l : Lead} (lead : lead? b = some l) : 0x80 ≤ l.low := by
  unfold lead? at lead
  split_ifs at lead
  all_goals
    obtain rfl := Option.some.inj lead
    dsimp only
    decide

/-- An ASCII byte ends what is read of a character. -/
theorem follow_ascii (value : Nat) {low : UInt8} (high : UInt8) (more : Nat) (bs : List UInt8) {a : UInt8} (ascii : a < 0x80)
    (above : 0x80 ≤ low) (rest : List UInt8) :
    follow value low high more (bs ++ a :: rest) =
      ((follow value low high more bs).1, (follow value low high more bs).2 ++ a :: rest) := by
  fun_induction follow value low high more bs with
  | case1 => rfl
  | case2 value low high more =>
    have outside : ¬ (low ≤ a && a ≤ high) = true := by
      intro inside
      have reaches : low ≤ a := of_decide_eq_true (Bool.and_eq_true_iff.mp inside).1
      exact UInt8.not_le.mpr ascii (UInt8.le_trans above reaches)
    rw [List.nil_append, follow, if_neg outside]
  | case3 value low high more b bs inside ih =>
    rw [List.cons_append, follow, if_pos inside]
    exact ih (by decide)
  | case4 value low high more b bs outside =>
    rw [List.cons_append, follow, if_neg outside]

theorem next_ascii (b : UInt8) (bs : List UInt8) {a : UInt8} (ascii : a < 0x80) (rest : List UInt8) :
    next b (bs ++ a :: rest) = ((next b bs).1, (next b bs).2 ++ a :: rest) := by
  unfold next
  by_cases small : b < 0x80
  · simp only [if_pos small]
  · simp only [if_neg small]
    cases lead : lead? b with
    | none => rfl
    | some l => exact follow_ascii l.payload l.high l.more bs ascii (lead?_low lead) rest

/-- Bytes may be read for themselves up to an ASCII byte, and from it on. -/
theorem lenient_ascii (bs : List UInt8) {a : UInt8} (ascii : a < 0x80) (rest : List UInt8) :
    lenient (bs ++ a :: rest) = lenient bs ++ Char.ofNat a.toNat :: lenient rest := by
  fun_induction lenient bs with
  | case1 =>
    rw [List.nil_append, List.nil_append, lenient]
    simp [next, ascii]
  | case2 b bs ih =>
    rw [List.cons_append, lenient, next_ascii b bs ascii rest, ih]
    rfl

/-! ## Characters of a set -/

/-- The bytes hold no flaw, and all their characters are in a set. -/
def Reads (p : Char → Bool) (bs : List UInt8) : Prop := ∃ cs, strict? bs = some cs ∧ ∀ c ∈ cs, p c = true

variable {p : Char → Bool}

theorem reads_nil (p : Char → Bool) : Reads p [] := by
  refine ⟨[], ?_, fun c mem => by cases mem⟩
  rw [strict?]

theorem strict?_cons (read : next b bs = (some c, left)) : strict? (b :: bs) = (strict? left).map (c :: ·) := by
  rw [strict?, read]
  rfl

/-- Bytes that hold a character of the set, and then more. -/
theorem reads_cons (read : next b bs = (some c, left)) : Reads p (b :: bs) ↔ p c = true ∧ Reads p left := by
  constructor
  · rintro ⟨cs, strict, all⟩
    rw [strict?_cons read] at strict
    obtain ⟨cs', strict', rfl⟩ := Option.map_eq_some_iff.mp strict
    obtain ⟨first, others⟩ := List.forall_mem_cons.mp all
    exact ⟨first, cs', strict', others⟩
  · rintro ⟨first, cs, strict, all⟩
    exact ⟨c :: cs, by rw [strict?_cons read, strict]; rfl, List.forall_mem_cons.mpr ⟨first, all⟩⟩

theorem not_reads_flaw (flaw : (next b bs).1 = none) : ¬ Reads p (b :: bs) := by
  rintro ⟨cs, strict, -⟩
  rw [strict?, flaw] at strict
  cases strict

/-- Bytes that hold only characters of a set, one character after the other. -/
theorem Reads.induction {motive : (bs : List UInt8) → Reads p bs → Prop} (nil : motive [] (reads_nil p))
    (cons : ∀ {b bs c left} (read : next b bs = (some c, left)) (inside : p c = true) (others : Reads p left),
      motive left others → motive (b :: bs) ((reads_cons read).mpr ⟨inside, others⟩))
    (reads : Reads p bs) : motive bs reads := by
  induction n : bs.length using Nat.strongRecOn generalizing bs with
  | ind n ih =>
    cases bs with
    | nil => exact nil
    | cons b bs =>
      cases read : next b bs with
      | mk found left =>
        cases found with
        | none => exact absurd reads (not_reads_flaw (by rw [read]))
        | some c =>
          obtain ⟨first, others⟩ := (reads_cons read).mp reads
          have shorter : left.length ≤ bs.length := by simpa [read] using next_length b bs
          rw [List.length_cons] at n
          exact cons read first others (ih left.length (by omega) others rfl)

/-- The characters at the head are dropped in full. -/
theorem dropWhile_reads (p : Char → Bool) (bs : List UInt8) : ∃ taken, bs = taken ++ dropWhile p bs ∧ Reads p taken := by
  fun_induction dropWhile p bs with
  | case1 => exact ⟨[], rfl, reads_nil p⟩
  | case2 b bs inside ih =>
    obtain ⟨taken, split, reads⟩ := ih
    cases read : next b bs with
    | mk found left =>
      rw [read] at inside split
      cases found with
      | none => cases inside
      | some c =>
        obtain ⟨used, rfl, alone⟩ := next_used read
        refine ⟨b :: (used ++ taken), ?_, (reads_cons (next_more alone taken)).mpr ⟨inside, reads⟩⟩
        rw [List.cons_append, List.append_assoc, ← split]
  | case3 b bs outside => exact ⟨[], rfl, reads_nil p⟩

/-- What is dropped ends at an ASCII character that is not in the set. -/
theorem Reads.dropWhile {taken : List UInt8} (reads : Reads p taken) {a : UInt8} (ascii : a < 0x80)
    (stops : p (Char.ofNat a.toNat) = false) (rest : List UInt8) : dropWhile p (taken ++ a :: rest) = a :: rest := by
  induction reads using Reads.induction with
  | nil =>
    rw [List.nil_append, Utf8.dropWhile]
    simp [next, ascii, stops]
  | cons read inside others ih =>
    have more := next_more read (a :: rest)
    rw [List.cons_append, Utf8.dropWhile, more, if_pos (by simpa using inside), ih]

theorem Reads.lenient (reads : Reads p bs) : ∀ c ∈ lenient bs, p c = true := by
  induction reads using Reads.induction with
  | nil => simp [Utf8.lenient]
  | cons read inside others ih =>
    rw [Utf8.lenient, read]
    exact List.forall_mem_cons.mpr ⟨inside, ih⟩

/-- An ASCII byte is a character of its own. -/
theorem Reads.ascii {taken : List UInt8} (reads : Reads p taken) {a : UInt8} (mem : a ∈ taken) (ascii : a < 0x80) :
    p (Char.ofNat a.toNat) = true := by
  obtain ⟨before, after, rfl⟩ := List.append_of_mem mem
  have all := reads.lenient
  rw [lenient_ascii before ascii after] at all
  exact all _ (List.mem_append_right _ List.mem_cons_self)

end Frontier.Text.Utf8
