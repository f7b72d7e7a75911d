import Frontier.Engine.Motion
import Frontier.Proofs.Answers
import Frontier.Proofs.Statement

/-!
# Commands of the engine

The echo prover reads the engine's undo command as the undo that was meant. It reads a batch of several statements as
these statements, whatever they are; a single statement may be taken for an undo.
-/

namespace Frontier
open Text

namespace Echo

/-- A text that begins and ends with characters that stay is not trimmed. -/
theorem trimBoth_eq {p : Char → Bool} {cs : List Char} (first : ∀ c, cs.head? = some c → p c = false)
    (last : ∀ c, cs.getLast? = some c → p c = false) : trimBoth p cs = cs := by
  have front : cs.dropWhile p = cs := by
    cases cs with
    | nil => rfl
    | cons c rest => exact List.dropWhile_cons_of_neg (by simp [first c rfl])
  have back : cs.reverse.dropWhile p = cs.reverse := by
    rcases List.eq_nil_or_concat cs with rfl | ⟨rest, c, rfl⟩
    · rfl
    · rw [List.concat_eq_append, List.reverse_append]
      exact List.dropWhile_cons_of_neg (by simp [last c (by simp)])
  rw [trimBoth, front, back, List.reverse_reverse]

theorem undo_command (n : Nat) : (Rules.standard.undo n).toList = "undo ".toList ++ ((toString n).toList ++ ['.']) := by
  simp [Rules.undo, Rules.standard, Rules.fill]

theorem readSignedWord_toString {n : Nat} (small : n ≤ maxWord) : readSignedWord (toString n).toList = some n := by
  have read := readWord_toString small
  have digits := digits_toString (n := n)
  unfold readSignedWord
  split
  · next rest same =>
    have plus := digits '+' (by rw [same]; exact List.mem_cons_self)
    simp at plus
  · exact read

/-- The undo command is read back. -/
theorem undoTarget?_undo {n : Nat} (small : n ≤ maxWord) : undoTarget? (Rules.standard.undo n) = some n := by
  have digits := digits_toString (n := n)
  have whole : trim ("undo ".toList ++ ((toString n).toList ++ ['.'])) =
      "undo ".toList ++ ((toString n).toList ++ ['.']) := by
    apply trimBoth_eq
    · intro c first
      obtain rfl : 'u' = c := by simpa using first
      decide
    · intro c last
      rw [← List.append_assoc, List.getLast?_concat] at last
      obtain rfl : '.' = c := by simpa using last
      decide
  have after : after? "undo ".toList ("undo ".toList ++ ((toString n).toList ++ ['.'])) =
      some ((toString n).toList ++ ['.']) := by
    simp [after?]
  have dot : trimEnd (· == '.') ((toString n).toList ++ ['.']) = (toString n).toList := by
    have stays : (toString n).toList.reverse.dropWhile (· == '.') = (toString n).toList.reverse := by
      cases turned : (toString n).toList.reverse with
      | nil => rfl
      | cons c rest =>
        have digit := digits c (List.mem_reverse.mp (by rw [turned]; exact List.mem_cons_self))
        refine List.dropWhile_cons_of_neg fun same => ?_
        obtain rfl : c = '.' := by simpa using same
        simp at digit
    rw [trimEnd, List.reverse_append, List.reverse_singleton, List.singleton_append,
      List.dropWhile_cons_of_pos (by decide), stays, List.reverse_reverse]
  have blank : trim (toString n).toList = (toString n).toList := by
    apply trimBoth_eq
    · exact fun c first => isBlank_digit (digits c (List.mem_of_head? first))
    · exact fun c last => isBlank_digit (digits c (List.mem_of_getLast? last))
  rw [undoTarget?, undo_command, whole, after, Option.bind_some, dot, blank, readSignedWord_toString small]

/-! ## Batches -/

theorem mem_dropWhile {p : Char → Bool} {c : Char} {cs : List Char} (mem : c ∈ cs) (stays : p c = false) :
    c ∈ cs.dropWhile p := by
  rw [← List.takeWhile_append_dropWhile (p := p) (l := cs)] at mem
  rcases List.mem_append.mp mem with front | back
  · have := List.all_eq_true.mp List.all_takeWhile c front
    simp [stays] at this
  · exact back

theorem mem_trimBoth_of_mem {p : Char → Bool} {c : Char} {cs : List Char} (mem : c ∈ cs) (stays : p c = false) :
    c ∈ trimBoth p cs :=
  List.mem_reverse.mpr (mem_dropWhile (List.mem_reverse.mpr (mem_dropWhile mem stays)) stays)

theorem digitsFrom_none {cs : List Char} {c : Char} (mem : c ∈ cs) (other : c.isDigit = false) (seen : Nat) :
    digitsFrom seen cs = none := by
  induction cs generalizing seen with
  | nil => simp at mem
  | cons d rest ih =>
    rw [digitsFrom]
    split
    · next digit =>
      rcases List.mem_cons.mp mem with rfl | later
      · simp [other] at digit
      · exact ih later _
    · rfl

theorem readSignedWord_dot {cs : List Char} (mem : '.' ∈ cs) : readSignedWord cs = none := by
  unfold readSignedWord
  split
  · next rest =>
    have mem : '.' ∈ rest := by simpa using mem
    simp [readWord, digitsFrom_none mem (by decide)]
  · simp [readWord, digitsFrom_none mem (by decide)]

theorem dropWhile_append_stays {p : Char → Bool} {d : Char} (stays : p d = false) (front back : List Char) :
    (front ++ d :: back).dropWhile p = front.dropWhile p ++ d :: back := by
  rw [List.dropWhile_append]
  split
  · next empty => rw [List.isEmpty_iff.mp empty, List.dropWhile_cons_of_neg (by simp [stays]), List.nil_append]
  · rfl

/-- A text with a period at the end of a line, before the last period, is no undo. -/
theorem undoTarget?_lines {text : String} {front back : List Char} (lines : text.toList = front ++ '.' :: '\n' :: back)
    (last : back.getLast? = some '.') : undoTarget? text = none := by
  obtain ⟨body, rfl⟩ : ∃ body, back = body ++ ['.'] := by
    rcases List.eq_nil_or_concat back with rfl | ⟨body, c, rfl⟩
    · simp at last
    · exact ⟨body, by simpa using last⟩
  have trimmed : trim text.toList = front.dropWhile isBlank ++ '.' :: '\n' :: (body ++ ['.']) := by
    have turned : (front.dropWhile isBlank ++ '.' :: '\n' :: (body ++ ['.'])).reverse =
        '.' :: (front.dropWhile isBlank ++ '.' :: '\n' :: body).reverse := by simp
    rw [trim, trimBoth, lines, dropWhile_append_stays (by decide), turned,
      List.dropWhile_cons_of_neg (by decide), ← turned, List.reverse_reverse]
  have goes : ∀ rest, after? "undo ".toList (trim text.toList) = some rest →
      ∃ begin, rest = begin ++ '.' :: '\n' :: (body ++ ['.']) := by
    intro rest found
    rw [trimmed, after?] at found
    split at found
    · next begins =>
      obtain ⟨rest', same⟩ := List.isPrefixOf_iff_prefix.mp begins
      have whole : rest = rest' := by
        rw [← same, List.drop_left] at found
        exact (Option.some.inj found).symm
      subst whole
      rcases List.append_eq_append_iff.mp same with ⟨begin, -, ends⟩ | ⟨begin, word, ends⟩
      · exact ⟨begin, ends⟩
      · cases begin with
        | nil => exact ⟨[], ends.symm⟩
        | cons c begin =>
          obtain ⟨rfl, -⟩ := List.cons.inj ends
          have mem : '.' ∈ "undo ".toList := by rw [word]; simp
          simp at mem
    · cases found
  cases found : after? "undo ".toList (trim text.toList) with
  | none => rw [undoTarget?, found, Option.bind_none]
  | some rest =>
    obtain ⟨begin, rfl⟩ := goes rest found
    have turned : (begin ++ '.' :: '\n' :: (body ++ ['.'])).reverse =
        '.' :: body.reverse ++ '\n' :: '.' :: begin.reverse := by simp
    have dots : '.' ∈ trimEnd (· == '.') (begin ++ '.' :: '\n' :: (body ++ ['.'])) := by
      rw [trimEnd, turned, dropWhile_append_stays (by decide), List.mem_reverse]
      simp
    rw [undoTarget?, found, Option.bind_some]
    exact readSignedWord_dot (mem_trimBoth_of_mem dots (by decide))

end Echo

namespace Engine
open Statement

theorem whole_last {text : List Char} (whole : Whole text) : text.getLast? = some '.' := by
  have read := whole.read none [] rfl closing_nil
  exact body_getLast read

/-- Several statements on lines of their own are no undo. -/
theorem undoTarget?_batch {texts : List String} (whole : ∀ t ∈ texts, Whole t.toList) (several : 2 ≤ texts.length) :
    Echo.undoTarget? ("\n".intercalate texts) = none := by
  have ends : ∀ texts : List String, texts ≠ [] → (∀ t ∈ texts, Whole t.toList) →
      ("\n".intercalate texts).toList.getLast? = some '.' := by
    intro texts
    induction texts with
    | nil => exact fun some => absurd rfl some
    | cons text rest ih =>
      intro _ whole
      obtain ⟨first, others⟩ := List.forall_mem_cons.mp whole
      by_cases empty : rest = []
      · rw [empty, String.intercalate_singleton]
        exact whole_last first
      · have last := ih empty others
        rw [String.intercalate_cons_of_ne_nil empty, String.toList_append, List.getLast?_append, last]
        rfl
  match texts, several with
  | first :: second :: rest, _ =>
    obtain ⟨one, others⟩ := List.forall_mem_cons.mp whole
    have last := ends (second :: rest) (by simp) others
    obtain ⟨front, same⟩ : ∃ front, first.toList = front ++ ['.'] := by
      rcases List.eq_nil_or_concat first.toList with empty | ⟨front, c, same⟩
      · have := whole_last one
        simp [empty] at this
      · have := whole_last one
        rw [same] at this
        exact ⟨front, by simpa [same] using this⟩
    have lines : ("\n".intercalate (first :: second :: rest)).toList =
        front ++ '.' :: '\n' :: ("\n".intercalate (second :: rest)).toList := by
      rw [String.intercalate_cons_of_ne_nil (by simp), String.toList_append, String.toList_append, same]
      simp
    exact Echo.undoTarget?_lines lines last

end Engine
end Frontier
