import Frontier.Shell.Glob
import Frontier.Shell.State

/-!
# Fields

What a word expands to is a row of cells. Some regions of it came out of expansions, and are cut into fields at the
separators; a quotation mark keeps a field that is empty otherwise. Then fields that are patterns become the names of
the files they match.
-/

namespace Frontier.Shell

/-- A character of an expanded word. -/
inductive Cell where
  | plain (c : Char)
  | quoted (c : Char)
  /-- A quotation begins or ends. -/
  | mark
  deriving DecidableEq, Repr, Inhabited

/-- The character of a cell. -/
def Cell.char? : Cell → Option Char
  | plain c | quoted c => some c
  | mark => none

/-- Cells as they are printed. -/
def Cell.text (cells : List Cell) : Bytes := cells.filterMap Cell.char?

/-- Cells as a pattern. -/
def Cell.glyphs (cells : List Cell) : List Glyph :=
  cells.filterMap fun
    | plain c => some (c, false)
    | quoted c => some (c, true)
    | mark => none

/-- A part of an expanded word that may be cut. -/
structure Region where
  first : Nat
  /-- The place after its end. -/
  last : Nat
  /-- Whether it is cut between parameters only. -/
  byParams : Bool
  deriving Repr, Inhabited

/-- What stands between parameters that are fields of their own. -/
def paramEnd : Char := '\x00'

namespace Fields

/-- How far cells have been cut. -/
structure Cutting where
  /-- Where the next field begins. -/
  start : Nat := 0
  /-- The fields that were cut, latest first, by first place and place after the end. -/
  fields : List (Nat × Nat) := []
  /-- Whether the last separator was a blank. -/
  afterBlank : Bool := false
  /-- How many more fields there may be, the last one included. -/
  left : Option Nat := none
  /-- Where the last field ends, if what follows is to be taken away. -/
  tail : Option Nat := none
  deriving Repr, Inhabited

/-- Whether a character separates fields by default. -/
def isBlank (c : Char) : Bool := c == ' ' || c == '\t' || c == '\n' || c == paramEnd

/-- Takes one cell of a region that may be cut. -/
def cutAt (separators : Bytes) (keepsBlanks : Bool) (c : Char) (q : Nat) (s : Cutting) : Cutting :=
  let separates := c == paramEnd || separators.contains c
  let isBlank := separates && isBlank c
  if s.left == some 0 then
    if isBlank then { s with tail := s.tail.or (some q) }
    else { s with tail := if separates && s.afterBlank then s.tail else none, afterBlank := false }
  else
    let (s, separates, passes) :=
      if s.afterBlank then
        ({ s with start := if separates then q + 1 else q }, false, isBlank)
      else (s, separates, false)
    if passes then s
    else if separates then
      let afterBlank := if keepsBlanks then s.afterBlank else isBlank
      if q == s.start && afterBlank then { s with start := q + 1, afterBlank := false }
      else
        let left := s.left.map (· - 1)
        if left == some 0 then { s with left, afterBlank, tail := some q }
        else { s with left, afterBlank, fields := (s.start, q) :: s.fields, start := q + 1 }
    else { s with afterBlank := false }

/-- Cuts one region. -/
def cutRegion (separators : Bytes) (keepsBlanks : Bool) (cells : Array Cell) (last : Nat) :
    (fuel : Nat) → Nat → Cutting → Cutting
  | 0, _, s => s
  | fuel + 1, q, s =>
    if q < last then
      let s := match (cells[q]?).bind Cell.char? with
        | some c => cutAt separators keepsBlanks c q s
        | none => { s with afterBlank := false }
      cutRegion separators keepsBlanks cells last fuel (q + 1) s
    else s

/-- Cuts cells into fields, into no more than `most` if that is given. -/
def cut (separators : Bytes) (most : Option Nat) (cells : List Cell) (regions : List Region) : List (List Cell) :=
  let all := cells.toArray
  let (s, byParams) := regions.foldl (fun (s, afterParams) r =>
    let separators := if r.byParams then [] else separators
    (cutRegion separators (afterParams || r.byParams) all r.last (r.last - r.first + 1) r.first
      { s with afterBlank := false }, r.byParams)) (({ left := most } : Cutting), false)
  let stop := s.tail.getD all.size
  let fields := if s.start < stop || byParams then (s.start, stop) :: s.fields else s.fields
  fields.reverse.map fun (first, last) => (all.extract first last).toList

end Fields

/-! ## Names of files -/

/-- The parts of a pattern between slashes. -/
def patternParts : List Glyph → List (List Glyph)
  | [] => [[]]
  | g :: rest =>
    match patternParts rest with
    | [] => [[g]]
    | part :: more => if g.1 == '/' then [] :: part :: more else (g :: part) :: more

/-- The names that some parts of a pattern match, after a path. -/
def filesFrom : List (List Glyph) → (path : Bytes) → Sh (List Bytes)
  | [], path => do
    match ← Sh.ask (.facts path false) with
    | .ok _ => return [path]
    | .error _ => return []
  | part :: rest, path => do
    let after (name : Bytes) : Sh (List Bytes) :=
      filesFrom rest (path ++ name ++ if rest.isEmpty then [] else ['/'])
    let part := Glob.unescaped part
    if !Glob.isPattern part then after (part.map (·.1))
    else
      match ← Sh.ask (.entries (if path.isEmpty then ['.'] else path)) with
      | .error _ => return []
      | .ok names =>
        let hidden := (part.head?.any fun g => g.1 == '.')
        let found := ([['.'], ['.', '.']] ++ names).filter fun name =>
          (hidden || name.head? != some '.') && Glob.accepts part name
        return (← found.mapM after).flatten

/-- The files that a pattern matches, in their order; the pattern itself if there are none. -/
def filesMatching (cells : List Cell) : Sh (List Bytes) := do
  let glyphs := Cell.glyphs cells
  if !Glob.isPattern glyphs || (← Sh.option 'f') then return [Cell.text cells]
  let found ← filesFrom (patternParts glyphs) []
  return if found.isEmpty then [Cell.text cells] else found.mergeSort Bytes.le

end Frontier.Shell
