import Frontier.Proofs.Marker
import Mathlib.Data.List.TakeDrop
import Mathlib.Data.List.TakeWhile

/-!
# Markers in a text that comes in pieces

A text may be cut anywhere, also inside a marker. What follows the last marker of a piece is read again with the next
one, and so every marker is found that the whole text has, and no other. A cut right behind a line end falls into no
marker; the pieces may then be read for themselves.
-/

namespace Frontier
open Text

namespace Marker

/-- Such a marker can be read. -/
structure Written.Proper (w : Written) : Prop where
  digits : ∀ c ∈ w.digits, isDecimalDigit c = true
  some : w.digits ≠ []
  tag : ∀ c ∈ w.tag, isTagChar c = true

variable {w : Written} {cs rest : List Char}

theorem proper_of_read? (read : read? cs = some (w, rest)) : w.Proper := by
  unfold read? at read
  split at read
  · next cs =>
    dsimp only at read
    split at read
    · next tail bar =>
      split at read
      · next rest' close =>
        split at read
        · cases read
        · next full =>
          cases read
          have digits : ∀ c ∈ cs.takeWhile isDecimalDigit, isDecimalDigit c = true := fun c => List.mem_takeWhile_imp
          have tag : ∀ c ∈ tail.takeWhile isTagChar, isTagChar c = true := fun c => List.mem_takeWhile_imp
          exact ⟨digits, by simpa using full, tag⟩
      · cases read
    · cases read
  · cases read

/-- A marker is read just where one is written. -/
theorem read?_iff : read? cs = some (w, rest) ↔ w.Proper ∧ cs = w.chars ++ rest := by
  constructor
  · intro read
    exact ⟨proper_of_read? read, (read?_append read).symm⟩
  · rintro ⟨proper, rfl⟩
    have bar : isDecimalDigit '|' = false := by decide
    have close : isTagChar ']' = false := by decide
    have chars : w.chars ++ rest = '[' :: (w.digits ++ '|' :: (w.tag ++ ']' :: '>' :: rest)) := by
      simp [Written.chars]
    have full : w.digits.isEmpty = false := List.isEmpty_eq_false_iff.mpr proper.some
    rw [chars, read?]
    simp only [List.takeWhile_append_of_pos proper.digits, List.dropWhile_append_of_pos proper.digits,
      List.takeWhile_cons, List.dropWhile_cons, bar, Bool.false_eq_true, ↓reduceIte, List.append_nil,
      List.takeWhile_append_of_pos proper.tag, List.dropWhile_append_of_pos proper.tag, close, full]

/-- What follows does not keep a marker from being read. -/
theorem read?_more (read : read? cs = some (w, rest)) (more : List Char) : read? (cs ++ more) = some (w, rest ++ more) := by
  obtain ⟨proper, rfl⟩ := read?_iff.mp read
  exact read?_iff.mpr ⟨proper, List.append_assoc ..⟩

/-! ## Texts without a whole marker -/

/-- No whole marker stands in a text. -/
def Bare (text : List Char) : Prop := ∀ s, s <:+ text → read? s = none

theorem Bare.tail {c : Char} (bare : Bare (c :: rest)) : Bare rest :=
  fun s suffix => bare s (suffix.trans (List.suffix_cons c rest))

theorem bare_cons {c : Char} (none : read? (c :: rest) = none) (bare : Bare rest) : Bare (c :: rest) := by
  intro s suffix
  rcases List.suffix_cons_iff.mp suffix with rfl | suffix
  · exact none
  · exact bare s suffix

theorem split_of_read? (read : read? cs = some (w, rest)) : split cs = (([], w) :: (split rest).1, (split rest).2) := by
  rw [split]
  split
  · next w' rest' read' =>
    rw [read] at read'
    cases read'
    rfl
  · next none => simp [read] at none

theorem split_of_none {c : Char} (none : read? (c :: rest) = none) : split (c :: rest) = consText c (split rest) := by
  rw [split]
  split
  · next some => simp [none] at some
  · rfl

theorem split_nil : split [] = ([], []) := by
  rw [split]
  rfl

/-- A text is cut nowhere just if it is bare. -/
theorem split_bare {text : List Char} (bare : Bare text) : split text = ([], text) := by
  induction text with
  | nil => exact split_nil
  | cons c rest ih =>
    rw [split_of_none (bare _ List.suffix_rfl), ih bare.tail]
    rfl

theorem bare_of_split {text : List Char} (uncut : (split text).1 = []) : Bare text := by
  induction text with
  | nil =>
    intro s suffix
    rw [List.suffix_nil.mp suffix]
    rfl
  | cons c rest ih =>
    cases read : read? (c :: rest) with
    | some found =>
      rw [split_of_read? read] at uncut
      cases uncut
    | none =>
      refine bare_cons read (ih ?_)
      rw [split_of_none read] at uncut
      cases found : split rest with
      | mk markers trailing =>
        cases markers with
        | nil => rfl
        | cons first more =>
          rw [found] at uncut
          cases uncut

/-- What is left behind the last marker is bare. -/
theorem split_leaves_bare (text : List Char) : Bare (split text).2 := by
  fun_induction split text with
  | case1 cs w rest read more trailing found ih =>
    rw [found] at ih
    exact ih
  | case2 => exact bare_of_split (by rw [split_nil])
  | case3 c rest read ih =>
    cases found : split rest with
    | mk markers trailing =>
      cases markers with
      | nil =>
        have bare : Bare (c :: rest) := bare_cons read (bare_of_split (by rw [found]))
        have whole := split_bare bare.tail
        rw [found] at whole
        cases whole
        exact bare
      | cons first more =>
        rw [found] at ih
        exact ih

/-- A bracket closes a marker only at its end. -/
theorem Written.Proper.close (proper : w.Proper) (before after : List Char)
    (split : w.chars = before ++ ']' :: '>' :: after) : after = [] := by
  have inside : ']' ∉ '[' :: (w.digits ++ '|' :: w.tag) := by
    intro mem
    simp only [List.mem_cons, List.mem_append] at mem
    rcases mem with same | mem | same | mem
    · exact absurd same (by decide)
    · exact absurd (proper.digits _ mem) (by decide)
    · exact absurd same (by decide)
    · exact absurd (proper.tag _ mem) (by decide)
  have chars : w.chars = ('[' :: (w.digits ++ '|' :: w.tag)) ++ [']', '>'] := by simp [Written.chars]
  rcases List.append_eq_append_iff.mp (chars.symm.trans split) with ⟨more, -, last⟩ | ⟨more, front, last⟩
  · have lengths := congrArg List.length last
    simp only [List.length_append, List.length_cons, List.length_nil] at lengths
    exact List.eq_nil_of_length_eq_zero (by omega)
  · cases more with
    | nil => simpa using last
    | cons c more =>
      obtain ⟨rfl, -⟩ := List.cons.inj last
      exact absurd (by rw [front]; simp) inside

/-- A marker that is cut is bare up to the cut. -/
theorem bare_of_cut {more : List Char} (none : read? cs = none) (read : read? (cs ++ more) = some (w, rest)) :
    Bare cs := by
  obtain ⟨proper, split⟩ := read?_iff.mp read
  intro s ⟨before, whole⟩
  cases found : read? s with
  | none => rfl
  | some entry =>
    obtain ⟨w', rest'⟩ := entry
    obtain ⟨-, rfl⟩ := read?_iff.mp found
    rcases List.append_eq_append_iff.mp split with ⟨tail, chars, -⟩ | ⟨tail, rfl, -⟩
    · have close := proper.close (before ++ '[' :: (w'.digits ++ '|' :: w'.tag)) (rest' ++ tail) (by
        rw [chars, ← whole]
        simp [Written.chars])
      obtain ⟨-, rfl⟩ := List.append_eq_nil_iff.mp close
      rw [List.append_nil] at chars
      have again : read? cs = some (w, []) := read?_iff.mpr ⟨proper, by rw [chars, List.append_nil]⟩
      rw [none] at again
      cases again
    · have again : read? (w.chars ++ tail) = some (w, tail) := read?_iff.mpr ⟨proper, rfl⟩
      rw [none] at again
      cases again

/-- A text is cut at the markers of its first piece, and then at those of what is left of that and the second. -/
theorem split_pieces (text more : List Char) :
    split (text ++ more) = ((split text).1 ++ (split ((split text).2 ++ more)).1, (split ((split text).2 ++ more)).2) := by
  fun_induction split text with
  | case1 cs w rest read found trailing same ih =>
    rw [split_of_read? (read?_more read more), ih, same]
    rfl
  | case2 => rfl
  | case3 c rest unread ih =>
    by_cases bare : Bare rest
    · rw [split_bare bare]
      rfl
    · cases found : split rest with
      | mk markers trailing =>
        cases markers with
        | nil => exact absurd (bare_of_split (by rw [found])) bare
        | cons first others =>
          have uncut : read? (c :: (rest ++ more)) = none := by
            cases read : read? (c :: (rest ++ more)) with
            | none => rfl
            | some entry => exact absurd (bare_of_cut unread read).tail bare
          rw [List.cons_append, split_of_none uncut, ih, found]
          rfl

/-- The markers of a text are those that are written where it is cut. -/
theorem find_eq (text : String) : find text = ((split text.toList).1.map (·.2)).filterMap Written.marker? := by
  rw [find, List.filterMap_map]
  rfl

/-! ## Cuts behind a line end -/

theorem Written.Proper.oneLine (proper : w.Proper) : '\n' ∉ w.chars := by
  intro mem
  simp only [Written.chars, List.mem_cons, List.mem_append, List.not_mem_nil, or_false] at mem
  rcases mem with same | mem | same | mem | same | same
  · exact absurd same (by decide)
  · exact absurd (proper.digits _ mem) (by decide)
  · exact absurd same (by decide)
  · exact absurd (proper.tag _ mem) (by decide)
  · exact absurd same (by decide)
  · exact absurd same (by decide)

/-- A text that is empty or ends with a line. -/
def LineEnds (text : List Char) : Prop := ∀ c ∈ text.getLast?, c = '\n'

theorem LineEnds.tail {c : Char} (line : LineEnds (c :: rest)) : LineEnds rest := by
  intro last mem
  refine line last ?_
  rw [List.getLast?_cons, Option.mem_def.mp mem]
  rfl

theorem LineEnds.mem {c : Char} (line : LineEnds (c :: rest)) : '\n' ∈ c :: rest := by
  have last := line _ (List.getLast?_eq_some_getLast (List.cons_ne_nil c rest))
  rw [← last]
  exact List.getLast_mem _

/-- No marker begins in a bare text that ends with a line, whatever follows. -/
theorem Bare.plain {text : List Char} (bare : Bare text) (line : LineEnds text) : Plain text := by
  induction text with
  | nil => trivial
  | cons c rest ih =>
    refine ⟨fun more => ?_, ih bare.tail line.tail⟩
    cases read : read? (c :: (rest ++ more)) with
    | none => rfl
    | some entry =>
      obtain ⟨w, left⟩ := entry
      obtain ⟨proper, split⟩ := read?_iff.mp read
      rw [← List.cons_append] at split
      rcases List.append_eq_append_iff.mp split with ⟨tail, chars, -⟩ | ⟨tail, front, -⟩
      · exact absurd (by rw [chars]; exact List.mem_append_left _ line.mem) proper.oneLine
      · have again : read? (c :: rest) = some (w, tail) := read?_iff.mpr ⟨proper, front⟩
        rw [bare _ List.suffix_rfl] at again
        cases again

/-- A plain text in front of another one moves no marker. -/
theorem split_plain_append {text : List Char} (plain : Plain text) (more : List Char) :
    (split (text ++ more)).1.map (·.2) = (split more).1.map (·.2) := by
  induction text with
  | nil => rfl
  | cons c rest ih =>
    rw [List.cons_append, split_of_none (plain.1 more), ← ih plain.2]
    cases split (rest ++ more) with
    | mk markers trailing => cases markers <;> rfl

theorem lineEnds_of_suffix {text last : List Char} (line : LineEnds text) (suffix : last <:+ text) : LineEnds last := by
  obtain ⟨front, rfl⟩ := suffix
  intro c mem
  refine line c ?_
  rw [List.getLast?_append, Option.mem_def.mp mem]
  rfl

/-- Nothing gets lost when a text is cut. -/
theorem split_whole (text : List Char) :
    ((split text).1.flatMap fun piece => piece.1 ++ piece.2.chars) ++ (split text).2 = text := by
  fun_induction split text with
  | case1 cs w rest read found trailing same ih =>
    rw [same] at ih
    rw [List.flatMap_cons, List.nil_append, List.append_assoc, ih, read?_append read]
  | case2 => rfl
  | case3 c rest unread ih =>
    conv => rhs; rw [← ih]
    cases split rest with
    | mk markers trailing => cases markers <;> rfl

/-- Two texts may be read for themselves if the first one ends with a line. -/
theorem split_line {text : List Char} (line : LineEnds text) (more : List Char) :
    (split (text ++ more)).1.map (·.2) = (split text).1.map (·.2) ++ (split more).1.map (·.2) := by
  have plain := (split_leaves_bare text).plain (lineEnds_of_suffix line ⟨_, split_whole text⟩)
  rw [split_pieces, List.map_append, split_plain_append plain]

end Marker
end Frontier
