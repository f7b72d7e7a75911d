import Frontier.Machine.Bytes

/-!
# Expressions for texts

An expression describes texts. Of all texts at the first place where one begins, the longest is found. Where an
expression refers to what a group has matched, ways to match are tried one after the other.

These are the expressions of the tools in a machine, which only serve to run sessions. Errors of a prover are found by
patterns of their own.
-/

namespace Frontier

/-- An expression. -/
inductive Regex where
  | empty
  | char (c : Char)
  | any
  /-- One of some ranges of characters, or none of them. -/
  | set (negated : Bool) (ranges : List (Char × Char))
  | lineStart
  | lineEnd
  | wordStart
  | wordEnd
  /-- At the beginning or the end of a word, or at neither of them. -/
  | wordEdge (negated : Bool)
  | textStart
  | textEnd
  | group (number : Nat) (body : Regex)
  /-- What a group has matched. -/
  | again (number : Nat)
  | both (first second : Regex)
  | either (first second : Regex)
  | many (body : Regex) (least : Nat) (most : Option Nat)
  deriving Repr, Inhabited

namespace Regex

/-- How texts are compared. -/
structure Manner where
  ignoresCase : Bool := false
  /-- Whether a text has several lines. -/
  byLines : Bool := false
  /-- Whether the place before the text counts as the middle of a line. -/
  notAtStart : Bool := false
  deriving DecidableEq, Repr, Inhabited

/-- Whether a character belongs to words. -/
def isWordChar (c : Char) : Bool := c.isAlphanum || c == '_'

/-- A text with a place in it. -/
structure Cursor where
  place : Nat
  before : Option Char
  rest : Bytes
  deriving Repr, Inhabited

namespace Cursor

/-- The place after the next character. -/
def next? (c : Cursor) : Option (Char × Cursor) :=
  match c.rest with
  | [] => none
  | d :: rest => some (d, { place := c.place + 1, before := some d, rest })

/-- The place so many characters on. -/
def advance : Nat → Cursor → Cursor
  | 0, c => c
  | n + 1, c => match c.next? with
    | some (_, c) => advance n c
    | none => c

end Cursor

/-- Whether a word begins, or ends, at a place. -/
def begins (c : Cursor) : Bool := !c.before.any isWordChar && c.rest.head?.any isWordChar

/-- Whether a word ends at a place. -/
def ends (c : Cursor) : Bool := c.before.any isWordChar && !c.rest.head?.any isWordChar

/-- Whether an expression without width holds at a place; none if it has a width. -/
def holds? (m : Manner) (c : Cursor) : Regex → Option Bool
  | lineStart => some (c.before.isNone && !m.notAtStart || m.byLines && c.before == some '\n')
  | lineEnd => some (c.rest.isEmpty || m.byLines && c.rest.head? == some '\n')
  | wordStart => some (begins c)
  | wordEnd => some (ends c)
  | wordEdge negated => some ((begins c || ends c) != negated)
  | textStart => some (c.before.isNone && !m.notAtStart)
  | textEnd => some c.rest.isEmpty
  | empty => some true
  | _ => none

/-- Whether a set has a character. -/
def inRanges (m : Manner) (c : Char) (ranges : List (Char × Char)) : Bool :=
  let has (c : Char) : Bool := ranges.any fun (low, high) => low ≤ c && c ≤ high
  has c || m.ignoresCase && (has c.toLower || has c.toUpper)

/-- Whether an expression for one character fits it. -/
def fits (m : Manner) (d : Char) : Regex → Bool
  | char c => c == d || m.ignoresCase && c.toLower == d.toLower
  | any => true
  | set negated ranges => inRanges m d ranges != negated
  | _ => false

/-- Whether an expression refers to groups. -/
def looksBack : Regex → Bool
  | again _ => true
  | group _ body | many body _ _ => body.looksBack
  | both a b | either a b => a.looksBack || b.looksBack
  | _ => false

/-- How many groups an expression has. -/
def groups : Regex → Nat
  | group n body => max n body.groups
  | many body _ _ => body.groups
  | both a b | either a b => max a.groups b.groups
  | _ => 0

/-! ## All ends at once -/

/-- Joins lists of cursors that are ordered by their places, the furthest first. -/
def merge : (fuel : Nat) → List Cursor → List Cursor → List Cursor
  | 0, _, bs => bs
  | _ + 1, [], bs => bs
  | _ + 1, as, [] => as
  | fuel + 1, a :: as, b :: bs =>
    if b.place < a.place then a :: merge fuel as (b :: bs)
    else if a.place < b.place then b :: merge fuel (a :: as) bs
    else a :: merge fuel as bs

/-- Joins two lists of cursors. -/
def union (as bs : List Cursor) : List Cursor := merge (as.length + bs.length + 1) as bs

/-- Goes on from new places as long as there are some. -/
def spread (step : List Cursor → List Cursor) : (fuel : Nat) → (seen fresh : List Cursor) → List Cursor
  | 0, seen, _ => seen
  | fuel + 1, seen, fresh =>
    let reached := (step fresh).filter fun c => !seen.any (·.place == c.place)
    if reached.isEmpty then seen else spread step fuel (union seen reached) reached

/-- Takes a step a number of times. -/
def times (step : List Cursor → List Cursor) : Nat → List Cursor → List Cursor
  | 0, cs => cs
  | n + 1, cs => times step n (step cs)

/-- Takes a step up to a number of times. -/
def upTo (step : List Cursor → List Cursor) : Nat → List Cursor → List Cursor
  | 0, cs => cs
  | n + 1, cs => if cs.isEmpty then [] else union cs (upTo step n (step cs))

/-- The places that an expression without references leads to from some places, the furthest first. -/
def reach (m : Manner) (length : Nat) : Regex → List Cursor → List Cursor
  | group _ body, cs => reach m length body cs
  | both a b, cs => reach m length b (reach m length a cs)
  | either a b, cs => union (reach m length a cs) (reach m length b cs)
  | many body least most, cs =>
    let step := reach m length body
    let cs := times step least cs
    match most with
    | none => spread step (length + 2) cs cs
    | some most => upTo step (most - least) cs
  | again _, _ => []
  | r, cs => cs.filterMap fun c =>
    match holds? m c r with
    | some true => some c
    | some false => none
    | none => match c.next? with
      | some (d, next) => if r.fits m d then some next else none
      | none => none

/-! ## Groups, one way after the other -/

/-- What groups have matched: where each begins and ends, latest first. -/
abbrev Marks := List (Nat × Nat × Nat)

/-- Tries the ways to match, the longer ones first, and gives the first result. Every step of `fuel` goes into an
expression. -/
def trial {α : Type} (m : Manner) (text : Array Char) : (fuel : Nat) → Regex → Cursor → Marks → (Cursor → Marks → Option α) →
    Option α
  | 0, _, _, _, _ => none
  | fuel + 1, group n body, c, marks, next =>
    trial m text fuel body c marks fun d marks => next d ((n, c.place, d.place) :: marks)
  | fuel + 1, both a b, c, marks, next =>
    trial m text fuel a c marks fun d marks => trial m text fuel b d marks next
  | fuel + 1, either a b, c, marks, next =>
    (trial m text fuel a c marks next).orElse fun _ => trial m text fuel b c marks next
  | fuel + 1, many body least most, c, marks, next =>
    let more : Option α :=
      if most == some 0 then none
      else trial m text fuel body c marks fun d marks =>
        if d.place == c.place && least == 0 then none
        else trial m text fuel (many body (least - 1) (most.map (· - 1))) d marks next
    if least == 0 then more.orElse fun _ => next c marks else more
  | _ + 1, again n, c, marks, next =>
    match marks.lookup n with
    | none => none
    | some (first, last) =>
      let wanted := (text.extract first last).toList
      let found := c.rest.take wanted.length
      let same := if m.ignoresCase then wanted.map Char.toLower == found.map Char.toLower else wanted == found
      if same then next (c.advance wanted.length) marks else none
  | _ + 1, r, c, marks, next =>
    match holds? m c r with
    | some true => next c marks
    | some false => none
    | none => match c.next? with
      | some (d, after) => if r.fits m d then next after marks else none
      | none => none

/-- A match: where it begins and ends, and where its groups do. -/
structure Found where
  first : Nat
  last : Nat
  groups : Marks := []
  deriving Repr, Inhabited

/-- How deep ways to match are followed. -/
def trialDepth : Nat := 100000

/-- The places where matches from a place end, the furthest first. -/
def endsFrom (r : Regex) (m : Manner) (text : Array Char) (c : Cursor) : List Nat :=
  let length := c.rest.length
  if r.looksBack then
    (((List.range (length + 1)).reverse).filter fun n =>
      (trial m text trialDepth r c [] fun d _ => if d.place == c.place + n then some () else none).isSome).map (c.place + ·)
  else (r.reach m length [c]).map (·.place)

/-- The longest match that begins at a place. -/
def longest (r : Regex) (m : Manner) (text : Array Char) (wantsGroups : Bool) (c : Cursor) : Option Found :=
  let length := c.rest.length
  if r.looksBack then
    let ends := (List.range (length + 1)).reverse
    ends.findSome? fun n =>
      trial m text trialDepth r c [] fun d marks =>
        if d.place == c.place + n then some ⟨c.place, d.place, marks⟩ else none
  else
    match r.reach m length [c] with
    | [] => none
    | far :: _ =>
      if wantsGroups && 0 < r.groups then
        let found := trial m text trialDepth r c [] fun d marks =>
          if d.place == far.place then some ⟨c.place, d.place, marks⟩ else none
        found.or (some ⟨c.place, far.place, []⟩)
      else some ⟨c.place, far.place, []⟩

/-- The first match from a place on. -/
def firstFrom (r : Regex) (m : Manner) (text : Array Char) (wantsGroups : Bool) : (fuel : Nat) → Cursor → Option Found
  | 0, _ => none
  | fuel + 1, c =>
    match longest r m text wantsGroups c with
    | some found => some found
    | none => match c.next? with
      | some (_, c) => firstFrom r m text wantsGroups fuel c
      | none => none

/-- The first match in a text, from a place on. -/
def find? (r : Regex) (m : Manner) (text : Bytes) (start : Nat) (wantsGroups : Bool) : Option Found :=
  let c : Cursor := ({ place := 0, before := none, rest := text } : Cursor).advance start
  firstFrom r m text.toArray wantsGroups (text.length + 2 - start) c

end Regex
end Frontier
