import Frontier.Framer
import Frontier.Proofs.Pieces
import Frontier.Proofs.Utf8
import Mathlib.Data.List.Basic

/-!
# Framing loses nothing

However the output is cut into reads, a framer holds back just what stands behind the last marker line. All that it
releases ends with a line, and so it is decoded as in the whole output, and no marker is cut.
-/

namespace Frontier
open Text

namespace Framer

/-! ## Marker lines -/

/-- A marker, blanks and a line end, in bytes. -/
inductive MarkerLine : List UInt8 → Prop
  | mk {digits tag blanks ending : List UInt8} (some : digits ≠ []) (number : Utf8.Reads isDecimalDigit digits)
      (mode : Utf8.Reads Marker.isTagChar tag) (blank : ∀ b ∈ blanks, isSpace b = true)
      (ends : ending = [0x0A] ∨ ending = [0x0D, 0x0A]) :
    MarkerLine (0x5B :: (digits ++ 0x7C :: (tag ++ 0x5D :: 0x3E :: (blanks ++ ending))))

theorem lineEnd?_iff {bs rest : List UInt8} :
    lineEnd? bs = some rest ↔ ∃ ending, (ending = [0x0A] ∨ ending = [0x0D, 0x0A]) ∧ bs = ending ++ rest := by
  constructor
  · intro found
    unfold lineEnd? at found
    split at found
    · cases found
      exact ⟨[0x0A], .inl rfl, rfl⟩
    · cases found
      exact ⟨[0x0D, 0x0A], .inr rfl, rfl⟩
    · cases found
  · rintro ⟨ending, rfl | rfl, rfl⟩
    · rfl
    · rfl

/-- A marker line is found just where one stands. -/
theorem markerLine?_iff {bs rest : List UInt8} :
    markerLine? bs = some rest ↔ ∃ line, MarkerLine line ∧ bs = line ++ rest := by
  constructor
  · intro found
    unfold markerLine? at found
    split at found
    · next bs =>
      obtain ⟨digits, split, number⟩ := Utf8.dropWhile_reads isDecimalDigit bs
      dsimp only at found
      split at found
      · cases found
      · next some =>
        split at found
        · next tail bar =>
          obtain ⟨tag, split', mode⟩ := Utf8.dropWhile_reads Marker.isTagChar tail
          split at found
          · next more close =>
            obtain ⟨ending, ends, whole⟩ := lineEnd?_iff.mp found
            have blank : ∀ b ∈ more.takeWhile isSpace, isSpace b = true := fun b => List.mem_takeWhile_imp
            have spread := List.takeWhile_append_dropWhile (p := isSpace) (l := more)
            rw [bar] at split some
            rw [close] at split'
            rw [whole] at spread
            refine ⟨_, .mk ?_ number mode blank ends, ?_⟩
            · rintro rfl
              exact some (by simp [split])
            · conv => lhs; rw [split, split', ← spread]
              simp only [List.cons_append, List.append_assoc]
          · cases found
        · cases found
    · cases found
  · rintro ⟨line, ⟨some, number, mode, blank, ends⟩, rfl⟩
    next digits tag blanks ending =>
    have bar : isDecimalDigit (Char.ofNat (0x7C : UInt8).toNat) = false := by decide
    have close : Marker.isTagChar (Char.ofNat (0x5D : UInt8).toNat) = false := by decide
    have unmarked : (ending ++ rest).dropWhile isSpace = ending ++ rest := by
      rcases ends with rfl | rfl
      · rfl
      · rfl
    have found : lineEnd? (ending ++ rest) = .some rest := lineEnd?_iff.mpr ⟨ending, ends, rfl⟩
    have longer : ((0x7C :: (tag ++ 0x5D :: 0x3E :: (blanks ++ (ending ++ rest)))).length ==
        (digits ++ 0x7C :: (tag ++ 0x5D :: 0x3E :: (blanks ++ (ending ++ rest)))).length) = false := by
      have long := List.length_pos_iff.mpr some
      rw [beq_eq_false_iff_ne, List.length_append]
      omega
    simp only [List.cons_append, List.append_assoc, markerLine?, number.dropWhile (by decide) bar, longer,
      mode.dropWhile (by decide) close, List.dropWhile_append_of_pos blank, unmarked, found, Bool.false_eq_true,
      ↓reduceIte]

/-- The only line end in a marker line is at its end. -/
theorem MarkerLine.ends {line : List UInt8} (marker : MarkerLine line) : ∃ body, line = body ++ [0x0A] ∧ 0x0A ∉ body := by
  obtain ⟨some, number, mode, blank, ends⟩ := marker
  next digits tag blanks ending =>
  have start : (0x0A : UInt8) ∉ 0x5B :: (digits ++ 0x7C :: (tag ++ 0x5D :: 0x3E :: blanks)) := by
    intro mem
    simp only [List.mem_cons, List.mem_append] at mem
    rcases mem with same | mem | same | mem | same | same | mem
    · exact absurd same (by decide)
    · exact absurd (number.ascii mem (by decide)) (by decide)
    · exact absurd same (by decide)
    · exact absurd (mode.ascii mem (by decide)) (by decide)
    · exact absurd same (by decide)
    · exact absurd same (by decide)
    · exact absurd (blank _ mem) (by decide)
  rcases ends with rfl | rfl
  · exact ⟨_, by simp, start⟩
  · refine ⟨0x5B :: (digits ++ 0x7C :: (tag ++ 0x5D :: 0x3E :: blanks)) ++ [0x0D], by simp, ?_⟩
    rw [List.mem_append]
    rintro (mem | mem)
    · exact start mem
    · exact absurd (List.mem_singleton.mp mem) (by decide)

theorem MarkerLine.close {line before after : List UInt8} (marker : MarkerLine line)
    (split : line = before ++ 0x0A :: after) : after = [] := by
  obtain ⟨body, rfl, inside⟩ := marker.ends
  rcases List.append_eq_append_iff.mp split with ⟨more, -, last⟩ | ⟨more, rfl, last⟩
  · have lengths := congrArg List.length last
    simp only [List.length_append, List.length_cons, List.length_nil] at lengths
    exact List.eq_nil_of_length_eq_zero (by omega)
  · cases more with
    | nil => simpa using last
    | cons b more =>
      obtain ⟨rfl, -⟩ := List.cons.inj last
      exact absurd (by simp) inside

/-- A text of whole lines that is empty or ends with a line end. -/
def Lines (bs : List UInt8) : Prop := bs = [] ∨ ∃ body, bs = body ++ [0x0A]

theorem MarkerLine.lines {line : List UInt8} (marker : MarkerLine line) (front : List UInt8) : Lines (front ++ line) := by
  obtain ⟨body, rfl, -⟩ := marker.ends
  exact .inr ⟨front ++ body, (List.append_assoc ..).symm⟩

/-- A marker line that ends behind whole lines begins behind them. -/
theorem MarkerLine.behind {line before front rest after : List UInt8} (marker : MarkerLine line) (lines : Lines before)
    (split : before ++ rest = front ++ line ++ after) :
    rest.length ≤ after.length ∨ ∃ front', rest = front' ++ line ++ after := by
  rw [List.append_assoc] at split
  rcases List.append_eq_append_iff.mp split with ⟨more, rfl, whole⟩ | ⟨more, rfl, whole⟩
  · exact .inr ⟨more, by rw [whole, List.append_assoc]⟩
  · rcases List.append_eq_append_iff.mp whole with ⟨last, rfl, rfl⟩ | ⟨last, rfl, rfl⟩
    · exact .inl (by simp)
    · rcases List.eq_nil_or_concat' more with rfl | ⟨body, b, rfl⟩
      · exact .inr ⟨[], by simp⟩
      · -- The marker line would go on behind a line end.
        rcases lines with none | ⟨body', ends⟩
        · simp at none
        · rw [← List.append_assoc] at ends
          obtain ⟨-, rfl⟩ := List.append_singleton_inj.mp ends
          obtain rfl := marker.close (show _ = body ++ 0x0A :: last by simp)
          exact .inl (by simp)

/-! ## What is held back -/

/-- A marker line ends in front of some last bytes of `bs`. -/
def Follows (bs rest : List UInt8) : Prop := ∃ front line, MarkerLine line ∧ bs = front ++ line ++ rest

/-- The bytes behind the last marker line; all bytes if there is none. -/
structure Behind (bs held : List UInt8) : Prop where
  start : held = bs ∨ Follows bs held
  last : ∀ rest, Follows bs rest → held.length ≤ rest.length

theorem Follows.front {bs rest : List UInt8} (follows : Follows bs rest) (before : List UInt8) :
    Follows (before ++ bs) rest := by
  obtain ⟨front, line, marker, rfl⟩ := follows
  exact ⟨before ++ front, line, marker, by simp only [List.append_assoc]⟩

theorem Follows.length {bs rest : List UInt8} (follows : Follows bs rest) : rest.length < bs.length := by
  obtain ⟨front, line, marker, rfl⟩ := follows
  obtain ⟨body, rfl, -⟩ := marker.ends
  simp only [List.length_append, List.length_cons, List.length_nil]
  omega

/-- A marker line in a text whose beginning is whole lines ends there, or stands in the rest. -/
theorem Follows.behind {before bs rest : List UInt8} (lines : Lines before) (follows : Follows (before ++ bs) rest) :
    bs.length ≤ rest.length ∨ Follows bs rest := by
  obtain ⟨front, line, marker, split⟩ := follows
  rcases marker.behind lines split with shorter | ⟨front', same⟩
  · exact .inl shorter
  · exact .inr ⟨front', line, marker, same⟩

theorem behind_of_none {bs : List UInt8} (none : ∀ rest, ¬ Follows bs rest) : Behind bs bs :=
  ⟨.inl rfl, fun rest follows => absurd follows (none rest)⟩

/-- Of two marker lines the last one is found, if it is found behind the first. -/
theorem Behind.after {line rest held : List UInt8} (marker : MarkerLine line) (behind : Behind rest held) :
    Follows (line ++ rest) held ∧ Behind (line ++ rest) held := by
  have follows : Follows (line ++ rest) held := by
    rcases behind.start with rfl | follows
    · exact ⟨[], line, marker, rfl⟩
    · exact follows.front line
  refine ⟨follows, .inr follows, fun other follows' => ?_⟩
  have lines : Lines line := marker.lines []
  have short : held.length ≤ rest.length := by
    rcases behind.start with rfl | follows
    · exact Nat.le_refl _
    · exact Nat.le_of_lt follows.length
  rcases follows'.behind lines with longer | follows'
  · exact Nat.le_trans short longer
  · exact behind.last other follows'

/-- What the search for the last marker line finds. -/
theorem afterLast?_spec (bs : List UInt8) :
    match afterLast? bs with
    | some rest => Follows bs rest ∧ Behind bs rest
    | none => ∀ rest, ¬ Follows bs rest := by
  fun_induction afterLast? bs with
  | case1 bs rest found ih =>
    obtain ⟨line, marker, rfl⟩ := markerLine?_iff.mp found
    dsimp only
    cases more : afterLast? rest with
    | none =>
      rw [more] at ih
      exact (behind_of_none ih).after marker
    | some held =>
      rw [more] at ih
      exact ih.2.after marker
  | case2 =>
    intro rest follows
    exact absurd follows.length (by simp)
  | case3 b rest unmarked ih =>
    have first : ∀ {other}, Follows (b :: rest) other → Follows rest other := by
      rintro other ⟨front, line, marker, split⟩
      cases front with
      | nil =>
        rw [List.nil_append] at split
        rw [markerLine?_iff.mpr ⟨line, marker, split⟩] at unmarked
        cases unmarked
      | cons c front =>
        obtain ⟨-, rfl⟩ := List.cons.inj split
        exact ⟨front, line, marker, rfl⟩
    cases more : afterLast? rest with
    | none =>
      rw [more] at ih
      exact fun other follows => ih other (first follows)
    | some held =>
      rw [more] at ih
      exact ⟨ih.1.front [b], .inr (ih.1.front [b]), fun other follows => ih.2.last other (first follows)⟩

/-- Whole lines in front change nothing about what stands behind the last marker line. -/
theorem Behind.front {before bs held : List UInt8} (behind : Behind bs held) (lines : Lines before)
    (start : held = before ++ bs ∨ Follows (before ++ bs) held) : Behind (before ++ bs) held := by
  refine ⟨start, fun rest follows => ?_⟩
  have short : held.length ≤ bs.length := by
    rcases behind.start with rfl | follows
    · exact Nat.le_refl _
    · exact Nat.le_of_lt follows.length
  rcases follows.behind lines with longer | follows
  · exact Nat.le_trans short longer
  · exact behind.last rest follows

theorem Follows.more {bs rest : List UInt8} (follows : Follows bs rest) (more : List UInt8) :
    Follows (bs ++ more) (rest ++ more) := by
  obtain ⟨front, line, marker, rfl⟩ := follows
  exact ⟨front, line, marker, List.append_assoc ..⟩

theorem Behind.suffix {bs held : List UInt8} (behind : Behind bs held) : held <:+ bs := by
  rcases behind.start with rfl | ⟨front, line, -, rfl⟩
  · exact List.suffix_rfl
  · exact List.suffix_append _ _

/-- What is held back is determined by what was read. -/
theorem Behind.unique {bs held held' : List UInt8} (behind : Behind bs held) (behind' : Behind bs held') :
    held = held' := by
  have le : ∀ {a b : List UInt8}, Behind bs a → Behind bs b → a.length ≤ b.length := by
    intro a b first second
    rcases second.start with rfl | follows
    · exact first.suffix.length_le
    · exact first.last b follows
  exact List.IsSuffix.eq_of_length (List.suffix_of_suffix_length_le behind.suffix behind'.suffix (le behind behind'))
    (Nat.le_antisymm (le behind behind') (le behind' behind))

/-! ## What is released -/

/-- The texts are the bytes decoded, and have their markers. -/
structure Tells (bs : List UInt8) (texts : List String) : Prop where
  text : String.join texts = String.ofList (Utf8.lenient bs)
  markers : texts.flatMap Marker.find = Marker.find (String.ofList (Utf8.lenient bs))

theorem lenient_lines {bs : List UInt8} (lines : Lines bs) (rest : List UInt8) :
    Utf8.lenient (bs ++ rest) = Utf8.lenient bs ++ Utf8.lenient rest ∧ Marker.LineEnds (Utf8.lenient bs) := by
  rcases lines with rfl | ⟨body, rfl⟩
  · rw [Utf8.lenient]
    exact ⟨rfl, fun c mem => by cases mem⟩
  · have newline : (0x0A : UInt8) < 0x80 := by decide
    have empty : Utf8.lenient [] = [] := by rw [Utf8.lenient]
    rw [List.append_assoc, List.singleton_append, Utf8.lenient_ascii body newline rest,
      Utf8.lenient_ascii body newline [], empty]
    refine ⟨by rw [List.append_assoc, List.singleton_append], fun c mem => ?_⟩
    rw [List.getLast?_concat] at mem
    exact (Option.mem_some.mp mem).symm

theorem find_lines {text : List Char} (line : Marker.LineEnds text) (more : List Char) :
    Marker.find (String.ofList (text ++ more)) = Marker.find (String.ofList text) ++ Marker.find (String.ofList more) := by
  have entries : ∀ cs : List Char, Marker.find (String.ofList cs) = ((Marker.split cs).1.map (·.2)).filterMap (·.marker?) := by
    intro cs
    rw [Marker.find, String.toList_ofList, List.filterMap_map]
    rfl
  rw [entries, entries, entries, Marker.split_line line, List.filterMap_append]

theorem Tells.append {bs : List UInt8} {texts : List String} (tells : Tells bs texts) (lines : Lines bs)
    (more : List UInt8) : Tells (bs ++ more) (texts ++ [String.ofList (Utf8.lenient more)]) := by
  obtain ⟨decoded, line⟩ := lenient_lines lines more
  refine ⟨?_, ?_⟩
  · rw [decoded, String.ofList_append, String.join_append, tells.text]
    simp
  · rw [List.flatMap_append, tells.markers, decoded, find_lines line]
    simp

/-! ## Runs -/

/-- Pushes reads, one after the other; gives all texts that are released. -/
def pushAll (f : Framer) : List (List UInt8) → Framer × List String
  | [] => (f, [])
  | bs :: rest => (((f.push bs).1.pushAll rest).1, (f.push bs).2.toList ++ ((f.push bs).1.pushAll rest).2)

/-- The texts released for some reads and at the end of the output. -/
def released (reads : List (List UInt8)) : List String :=
  (pushAll {} reads).2 ++ (pushAll {} reads).1.flush.2.toList

/-- All that was read is released, but for what stands behind the last marker line. -/
def Framed (seen : List UInt8) (f : Framer) (texts : List String) : Prop :=
  Behind seen f.pending ∧ ∃ gone, seen = gone ++ f.pending ∧ Lines gone ∧ Tells gone texts

theorem Framed.push {seen : List UInt8} {f : Framer} {texts : List String} (framed : Framed seen f texts)
    (bs : List UInt8) : Framed (seen ++ bs) (f.push bs).1 (texts ++ (f.push bs).2.toList) := by
  obtain ⟨behind, gone, split, lines, tells⟩ := framed
  have spec := afterLast?_spec (f.pending ++ bs)
  have whole : seen ++ bs = gone ++ (f.pending ++ bs) := by rw [split, List.append_assoc]
  unfold Framer.push
  cases found : afterLast? (f.pending ++ bs) with
  | none =>
    rw [found] at spec
    simp only [found, Option.toList_none, List.append_nil]
    refine ⟨?_, gone, whole, lines, tells⟩
    rw [whole]
    refine (behind_of_none spec).front lines ?_
    rw [← whole]
    rcases behind.start with all | follows
    · exact .inl (by rw [← all])
    · exact .inr (follows.more bs)
  | some rest =>
    rw [found] at spec
    obtain ⟨follows, behind'⟩ := spec
    simp only [found, Option.toList_some]
    refine ⟨?_, ?_⟩
    · rw [whole]
      exact behind'.front lines (.inr (follows.front gone))
    · obtain ⟨front, line, marker, held⟩ := follows
      have cut : (f.pending ++ bs).take ((f.pending ++ bs).length - rest.length) = front ++ line := by
        rw [held, List.length_append, Nat.add_sub_cancel, List.take_left]
      rw [cut]
      refine ⟨gone ++ (front ++ line), ?_, ?_, tells.append lines _⟩
      · rw [whole, held]
        exact (List.append_assoc gone (front ++ line) rest).symm
      · rw [← List.append_assoc]
        exact marker.lines (gone ++ front)

theorem Framed.pushAll {seen : List UInt8} {f : Framer} {texts : List String} (framed : Framed seen f texts)
    (reads : List (List UInt8)) :
    Framed (seen ++ reads.flatten) (f.pushAll reads).1 (texts ++ (f.pushAll reads).2) := by
  induction reads generalizing seen f texts with
  | nil => simpa [Framer.pushAll] using framed
  | cons bs rest ih =>
    have more := ih (framed.push bs)
    rwa [List.append_assoc, List.append_assoc] at more

end Framer

/-- However the output is cut into reads, the texts that are released for it are its decoding, and have its markers one
by one. What is held back before the end is what stands behind the last marker line. -/
theorem framing_loses_nothing (reads : List (List UInt8)) :
    String.join (Framer.released reads) = String.ofList (Utf8.lenient reads.flatten) ∧
      (∀ held, Framer.Behind reads.flatten held ↔ held = (Framer.pushAll {} reads).1.pending) ∧
      (Framer.released reads).flatMap Marker.find = Marker.find (String.ofList (Utf8.lenient reads.flatten)) := by
  have begun : Framer.Framed [] {} [] := by
    refine ⟨Framer.behind_of_none fun rest follows => ?_, [], rfl, .inl rfl, ?_⟩
    · exact absurd follows.length (by simp)
    · exact ⟨by rw [Utf8.lenient]; rfl, by rw [Utf8.lenient]; decide +kernel⟩
  obtain ⟨behind, gone, split, lines, tells⟩ := begun.pushAll reads
  rw [List.nil_append] at behind split
  rw [List.nil_append] at tells
  have all : Framer.Tells reads.flatten (Framer.released reads) := by
    rw [Framer.released, split, Framer.flush]
    cases held : (Framer.pushAll {} reads).1.pending with
    | nil => simpa using tells
    | cons b bs =>
      rw [← held]
      simpa [held] using tells.append lines (b :: bs)
  refine ⟨all.text, fun held => ?_, all.markers⟩
  constructor
  · intro same
    exact same.unique behind
  · rintro rfl
    exact behind

end Frontier
