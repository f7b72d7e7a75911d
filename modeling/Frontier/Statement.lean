import Frontier.Text.Blank
import Frontier.Text.Measure

/-!
# Statements of a proof script

A statement ends at a period in code, that is outside strings and (nested) comments, which is followed by
a blank, by a comment or by the end of the text; a period between two digits ends nothing. So qualified
names and projections never end a statement. An unfinished comment or string yields no statement.
-/

namespace Frontier
open Text

/-- A terminated unit of a script, with the byte offsets of its first character and just past its period. -/
structure Statement where
  text : String
  start : Nat
  stop : Nat
  deriving DecidableEq, Repr, Inhabited

namespace Statement

/-- Whether an offset lies in the statement, both ends included. -/
def contains (s : Statement) (offset : Nat) : Bool := s.start ≤ offset && offset ≤ s.stop

/-- Where the reader of a statement stands: in code, in a string, or in a comment inside `depth` others. -/
inductive Mode where
  | code
  | string
  | comment (depth : Nat)
  deriving DecidableEq, Repr

/-- What follows the end of a comment inside `depth` others. -/
def Mode.afterComment : Nat → Mode
  | 0 => .code
  | depth + 1 => .comment depth

/-- Splits off the blanks and comments at the head of a text. -/
def gap : Mode → List Char → List Char × List Char
  | _, [] => ([], [])
  | .comment depth, '(' :: '*' :: rest =>
    let (skipped, left) := gap (.comment (depth + 1)) rest
    ('(' :: '*' :: skipped, left)
  | .comment depth, '*' :: ')' :: rest =>
    let (skipped, left) := gap (.afterComment depth) rest
    ('*' :: ')' :: skipped, left)
  | .comment depth, c :: rest =>
    let (skipped, left) := gap (.comment depth) rest
    (c :: skipped, left)
  | _, '(' :: '*' :: rest =>
    let (skipped, left) := gap (.comment 0) rest
    ('(' :: '*' :: skipped, left)
  | mode, c :: rest =>
    if isAsciiBlank c then
      let (skipped, left) := gap mode rest
      (c :: skipped, left)
    else ([], c :: rest)

/-- Whether a period ends a statement, from the character before it and the text after it. -/
def ends (before : Option Char) : List Char → Bool
  | [] => true
  | c :: rest =>
    if c.isDigit && before.any Char.isDigit then false
    else isAsciiBlank c || (c == '(' && rest.head? == some '*')

/-- Splits a text after the first period that ends a statement. -/
def body : Mode → Option Char → List Char → Option (List Char × List Char)
  | _, _, [] => none
  | .code, _, '(' :: '*' :: rest =>
    (body (.comment 0) (some '*') rest).map fun (taken, left) => ('(' :: '*' :: taken, left)
  | .code, before, c :: rest =>
    if c == '.' && ends before rest then some ([c], rest)
    else (body (if c == '"' then .string else .code) (some c) rest).map fun (taken, left) => (c :: taken, left)
  | .string, _, '\\' :: c :: rest =>
    (body .string (some c) rest).map fun (taken, left) => ('\\' :: c :: taken, left)
  | .string, _, c :: rest =>
    (body (if c == '"' then .code else .string) (some c) rest).map fun (taken, left) => (c :: taken, left)
  | .comment depth, _, '(' :: '*' :: rest =>
    (body (.comment (depth + 1)) (some '*') rest).map fun (taken, left) => ('(' :: '*' :: taken, left)
  | .comment depth, _, '*' :: ')' :: rest =>
    (body (.afterComment depth) (some ')') rest).map fun (taken, left) => ('*' :: ')' :: taken, left)
  | .comment depth, _, c :: rest =>
    (body (.comment depth) (some c) rest).map fun (taken, left) => (c :: taken, left)

theorem gap_append (mode : Mode) (cs : List Char) : (gap mode cs).1 ++ (gap mode cs).2 = cs := by
  fun_induction gap mode cs <;> simp_all

theorem body_append {mode : Mode} {before : Option Char} {cs taken left : List Char}
    (h : body mode before cs = some (taken, left)) : taken ++ left = cs := by
  fun_induction body mode before cs generalizing taken left <;>
    simp_all only [Option.map_eq_some_iff, Prod.exists, Prod.mk.injEq, Option.some.injEq, reduceCtorEq]
  all_goals first
    | (obtain ⟨rfl, rfl⟩ := h; simp)
    | (obtain ⟨t, l, hb, rfl, rfl⟩ := h; simp_all)

theorem body_ne_nil {mode : Mode} {before : Option Char} {cs taken left : List Char}
    (h : body mode before cs = some (taken, left)) : taken ≠ [] := by
  unfold body at h
  split at h <;> (try split at h) <;>
    simp_all only [Option.map_eq_some_iff, Prod.exists, Prod.mk.injEq, Option.some.injEq, reduceCtorEq]
  all_goals first
    | (obtain ⟨rfl, rfl⟩ := h; simp)
    | (obtain ⟨t, l, hb, rfl, rfl⟩ := h; simp)

/-- The first statement of a text that begins at `offset`, after the character `before`, and what follows it. -/
def next? (offset : Nat) (before : Option Char) (cs : List Char) : Option (Statement × List Char) :=
  let (skipped, code) := gap .code cs
  (body .code (skipped.getLast?.or before) code).map fun (taken, left) =>
    let start := offset + bytes skipped
    (⟨String.ofList taken, start, start + bytes taken⟩, left)

theorem next?_length {offset : Nat} {before : Option Char} {cs left : List Char} {s : Statement}
    (h : next? offset before cs = some (s, left)) : left.length < cs.length := by
  simp only [next?, Option.map_eq_some_iff, Prod.exists, Prod.mk.injEq] at h
  obtain ⟨taken, l, hb, _, rfl⟩ := h
  have split := congrArg List.length (gap_append .code cs)
  have taken_pos := List.length_pos_iff.mpr (body_ne_nil hb)
  have whole := congrArg List.length (body_append hb)
  simp only [List.length_append] at split whole
  omega

/-- The statements of a text that begins at `offset`, in order. -/
def allFrom (offset : Nat) (cs : List Char) : List Statement :=
  match _h : next? offset none cs with
  | none => []
  | some (s, left) => s :: allFrom s.stop left
termination_by cs.length
decreasing_by exact next?_length _h

/-- The statements of a script, in order. -/
def all (script : String) : List Statement := allFrom 0 script.toList

/-- The first statement that starts at or after an offset, read from there. -/
def firstFrom (script : String) (offset : Nat) : Option Statement :=
  let (before, after) := splitAt offset script.toList
  (next? (bytes before) before.getLast? after).map (·.1)

/-- The end of the last statement that ends strictly before an offset. -/
def lastEndBefore (script : String) (offset : Nat) : Option Nat :=
  (((all script).map (·.stop)).takeWhile (· < offset)).getLast?

end Statement
end Frontier
