import Frontier.Text.Blank
import Frontier.Text.Digit
import Frontier.Text.Number

/-!
# Prompt markers

After each statement the prover prints a marker, `[id|tag]>`: the number of its state and the mode it is in.
A marker's id is written in decimal digits of any script, its tag in any characters but `]` and line ends.
Markers are found from the left and do not overlap; one whose id is no ASCII number below 2^64 still takes
up its text but stands for no marker.
-/

namespace Frontier
open Text

/-- The prover's state after a command: its number, and the mode it is in. -/
structure Marker where
  id : Nat
  tag : String
  deriving DecidableEq, Repr, Inhabited

namespace Marker

/-- A character that may stand in a tag. -/
def isTagChar (c : Char) : Bool := c != ']' && c != '\r' && c != '\n'

/-- A marker as it stands in a text. -/
structure Written where
  digits : List Char
  tag : List Char
  deriving DecidableEq, Repr

/-- The characters of a written marker. -/
def Written.chars (w : Written) : List Char := '[' :: (w.digits ++ '|' :: (w.tag ++ [']', '>']))

/-- The marker that a written one stands for. -/
def Written.marker? (w : Written) : Option Marker :=
  (readWord w.digits).map fun id => ⟨id, String.ofList w.tag⟩

/-- The text of a marker. -/
def render (m : Marker) : String := "[" ++ toString m.id ++ "|" ++ m.tag ++ "]>"

/-- The marker written at the head of a text, and the text after it. -/
def read? : List Char → Option (Written × List Char)
  | '[' :: cs =>
    let digits := cs.takeWhile isDecimalDigit
    match cs.dropWhile isDecimalDigit with
    | '|' :: tail =>
      let tag := tail.takeWhile isTagChar
      match tail.dropWhile isTagChar with
      | ']' :: '>' :: rest => if digits.isEmpty then none else some (⟨digits, tag⟩, rest)
      | _ => none
    | _ => none
  | _ => none

theorem read?_append {cs rest : List Char} {w : Written} (h : read? cs = some (w, rest)) :
    w.chars ++ rest = cs := by
  unfold read? at h
  split at h
  · next cs =>
    have digits := List.takeWhile_append_dropWhile (p := isDecimalDigit) (l := cs)
    simp only at h
    split at h
    · next tail bar =>
      have tag := List.takeWhile_append_dropWhile (p := isTagChar) (l := tail)
      split at h
      · next rest' close =>
        split at h
        · cases h
        · cases h
          rw [close] at tag
          rw [bar] at digits
          simp only [Written.chars, List.cons_append, List.append_assoc, List.nil_append]
          rw [tag, digits]
      · cases h
    · cases h
  · cases h

theorem read?_length {cs rest : List Char} {w : Written} (h : read? cs = some (w, rest)) :
    rest.length < cs.length := by
  have whole := congrArg List.length (read?_append h)
  simp only [Written.chars, List.length_append, List.length_cons] at whole
  omega

/-- Puts a character in front of the text before the first marker. -/
def consText (c : Char) : List (List Char × Written) × List Char → List (List Char × Written) × List Char
  | ([], trailing) => ([], c :: trailing)
  | ((text, w) :: more, trailing) => ((c :: text, w) :: more, trailing)

/-- Cuts a text at its markers: each with the text since the one before it, and the text after the last. -/
def split (cs : List Char) : List (List Char × Written) × List Char :=
  match _h : read? cs with
  | some (w, rest) =>
    let (more, trailing) := split rest
    (([], w) :: more, trailing)
  | none =>
    match cs with
    | [] => ([], [])
    | c :: rest => consText c (split rest)
termination_by cs.length
decreasing_by
  · exact read?_length _h
  · simp

/-- The markers of a text, in order. -/
def find (text : String) : List Marker := (split text.toList).1.filterMap (·.2.marker?)

/-- A text without its markers. -/
def strip (text : String) : String :=
  let (found, trailing) := split text.toList
  String.ofList (found.flatMap (·.1) ++ trailing)

end Marker
end Frontier
