import Frontier.Regex.Basic

/-!
# Reading expressions

There are two forms of expressions. In the basic form groups, alternatives and counts are written with backslashes;
in the extended form they are not.
-/

namespace Frontier.Regex

/-- Why an expression cannot be read. -/
inductive Flaw where
  | invalid
  | unmatchedBracket
  | unmatchedOpen
  | unmatchedClose
  | unmatchedBrace
  | invalidCount
  | invalidRange
  | invalidClass
  | nothingBefore
  | trailingBackslash
  | invalidReference
  | countTooBig
  | invalidCollation
  /-- A name of a class without the brackets of a set around it. -/
  | strayClass
  deriving DecidableEq, Repr, Inhabited

/-- What is wrong. -/
def Flaw.message : Flaw → Bytes
  | invalid => bytesOf "Invalid regular expression"
  | unmatchedBracket => bytesOf "Unmatched [, [^, [:, [., or [="
  | unmatchedOpen => bytesOf "Unmatched ( or \\("
  | unmatchedClose => bytesOf "Unmatched ) or \\)"
  | unmatchedBrace => bytesOf "Unmatched \\\x7b"
  | invalidCount => bytesOf "Invalid content of \\\x7b\\\x7d"
  | invalidRange => bytesOf "Invalid range end"
  | invalidClass => bytesOf "Invalid character class name"
  | nothingBefore => bytesOf "Invalid preceding regular expression"
  | trailingBackslash => bytesOf "Trailing backslash"
  | invalidReference => bytesOf "Invalid back reference"
  | countTooBig => bytesOf "Regular expression too big"
  | invalidCollation => bytesOf "Invalid collation character"
  | strayClass => bytesOf "character class syntax is [[:space:]], not [:space:]"

/-- How expressions are written. -/
structure Style where
  /-- Whether groups, alternatives and counts are written without backslashes. -/
  extended : Bool
  /-- Whether signs that stand where they mean nothing are refused. -/
  strict : Bool := false
  deriving DecidableEq, Repr, Inhabited

/-- The characters of a class. -/
def classRanges? : String → Option (List (Char × Char))
  | "alpha" => some [('A', 'Z'), ('a', 'z')]
  | "digit" => some [('0', '9')]
  | "alnum" => some [('0', '9'), ('A', 'Z'), ('a', 'z')]
  | "upper" => some [('A', 'Z')]
  | "lower" => some [('a', 'z')]
  | "space" => some [('\t', '\r'), (' ', ' ')]
  | "blank" => some [('\t', '\t'), (' ', ' ')]
  | "punct" => some [('!', '/'), (':', '@'), ('[', '\x60'), ('\x7b', '~')]
  | "print" => some [(' ', '~')]
  | "graph" => some [('!', '~')]
  | "cntrl" => some [('\x00', '\x1f'), ('\x7f', '\x7f')]
  | "xdigit" => some [('0', '9'), ('A', 'F'), ('a', 'f')]
  | _ => none

/-- The ranges of characters that are no word characters. -/
def wordRanges : List (Char × Char) := [('0', '9'), ('A', 'Z'), ('_', '_'), ('a', 'z')]

/-- Reads a name up to a sign and a closing bracket. -/
def namedItem (sign : Char) : Bytes → Option (Bytes × Bytes)
  | [] | [_] => none
  | a :: b :: rest =>
    if a == sign && b == ']' then some ([], rest)
    else (namedItem sign (b :: rest)).map fun (name, rest) => (a :: name, rest)

/-- Reads an end of a range. -/
def rangeEnd : Bytes → Except Flaw (Char × Bytes)
  | '[' :: '.' :: rest | '[' :: '=' :: rest =>
    match namedItem '.' rest with
    | some ([c], rest) => .ok (c, rest)
    | some _ => .error .invalidCollation
    | none => match namedItem '=' rest with
      | some ([c], rest) => .ok (c, rest)
      | some _ => .error .invalidCollation
      | none => .error .unmatchedBracket
  | c :: rest => .ok (c, rest)
  | [] => .error .unmatchedBracket

/-- Reads a set after its opening bracket. Every step of `fuel` reads a character or more. -/
def readSet : (fuel : Nat) → (isFirst : Bool) → List (Char × Char) → Bytes → Except Flaw (List (Char × Char) × Bytes)
  | 0, _, _, _ | _ + 1, _, _, [] => .error .unmatchedBracket
  | _ + 1, false, ranges, ']' :: rest => .ok (ranges, rest)
  | fuel + 1, _, ranges, '[' :: ':' :: rest =>
    match namedItem ':' rest with
    | none => .error .unmatchedBracket
    | some (name, rest) =>
      match classRanges? (String.ofList name) with
      | some more => readSet fuel false (more ++ ranges) rest
      | none => .error .invalidClass
  | fuel + 1, _, ranges, text => do
    let (low, rest) ← rangeEnd text
    match rest with
    | '-' :: ']' :: _ => readSet fuel false ((low, low) :: ranges) rest
    | '-' :: more =>
      let (high, rest) ← rangeEnd more
      if high < low then throw .invalidRange
      readSet fuel false ((low, high) :: ranges) rest
    | rest => readSet fuel false ((low, low) :: ranges) rest

/-- Whether a set, with its closing bracket, is the name of a class that lacks the brackets of the set. -/
def isStrayClass (text : Bytes) (ranges : List (Char × Char)) : Bool :=
  text.head? == some ':' && text.dropLast.getLast? == some ':' && text.dropLast.any (· != ':') &&
    ranges.all fun (low, high) => low == high

/-- What the next signs are. -/
inductive Sign where
  | open
  | close
  | bar
  | star
  | plus
  | question
  | brace
  | caret
  | dollar
  | dot
  | bracket
  | reference (n : Nat)
  | special (r : Regex)
  | literal (c : Char)
  deriving Repr, Inhabited

/-- Reads the next sign. -/
def readSign (extended : Bool) : Bytes → Except Flaw (Option (Sign × Bytes))
  | [] => .ok none
  | '\\' :: [] => .error .trailingBackslash
  | '\\' :: c :: rest =>
    let sign : Sign := match c with
      | '(' => if extended then .literal c else .open
      | ')' => if extended then .literal c else .close
      | '|' => if extended then .literal c else .bar
      | '+' => if extended then .literal c else .plus
      | '?' => if extended then .literal c else .question
      | '\x7b' => if extended then .literal c else .brace
      | 'w' => .special (.set false wordRanges)
      | 'W' => .special (.set true wordRanges)
      | 's' => .special (.set false [('\t', '\r'), (' ', ' ')])
      | 'S' => .special (.set true [('\t', '\r'), (' ', ' ')])
      | 'b' => .special (.wordEdge false)
      | 'B' => .special (.wordEdge true)
      | '<' => .special .wordStart
      | '>' => .special .wordEnd
      | '\x60' => .special .textStart
      | '\'' => .special .textEnd
      | c => if '1' ≤ c && c ≤ '9' then .reference (c.toNat - 48) else .literal c
    .ok (some (sign, rest))
  | c :: rest =>
    let sign : Sign := match c with
      | '*' => .star
      | '.' => .dot
      | '[' => .bracket
      | '^' => .caret
      | '$' => .dollar
      | '(' => if extended then .open else .literal c
      | ')' => if extended then .close else .literal c
      | '|' => if extended then .bar else .literal c
      | '+' => if extended then .plus else .literal c
      | '?' => if extended then .question else .literal c
      | '\x7b' => if extended then .brace else .literal c
      | c => .literal c
    .ok (some (sign, rest))

/-- What stands before a comma or the closing brace of a count, and whether the brace came; none if neither does. -/
def countPart (extended : Bool) : Bytes → Option (Bytes × Bool × Bytes)
  | [] => none
  | ',' :: rest => some ([], false, rest)
  | '\\' :: c :: rest =>
    if !extended && c == '\x7d' then some ([], true, rest)
    else (countPart extended rest).map fun (part, more) => ('\\' :: c :: part, more)
  | c :: rest =>
    if extended && c == '\x7d' then some ([], true, rest)
    else (countPart extended rest).map fun (part, more) => (c :: part, more)

/-- The greatest count. -/
def countLimit : Nat := 32767

/-- Reads a count after its opening brace; none if the brace stands for itself. -/
def readCount (style : Style) (text : Bytes) : Except Flaw (Option (Nat × Option Nat × Bytes)) :=
  let wrong (flaw : Flaw) : Except Flaw (Option (Nat × Option Nat × Bytes)) :=
    if style.extended && !style.strict then .ok none else .error flaw
  let checked (least : Nat) (most : Option Nat) (rest : Bytes) : Except Flaw (Option (Nat × Option Nat × Bytes)) :=
    if most.any (· < least) then .error .invalidCount
    else if countLimit < most.getD least then .error .countTooBig
    else .ok (some (least, most, rest))
  match countPart style.extended text with
  | none => wrong .unmatchedBrace
  | some (low, closed, rest) =>
    if !low.all Char.isDigit then wrong (if (countPart style.extended rest).isNone && !closed then .unmatchedBrace else .invalidCount)
    else if closed then
      if low.isEmpty then .error .invalidCount else checked (Bytes.toNat low) (some (Bytes.toNat low)) rest
    else match countPart style.extended rest with
      | none => wrong .unmatchedBrace
      | some (high, closed, rest) =>
        if !high.all Char.isDigit then wrong .invalidCount
        else if !closed then .error .invalidCount
        else checked (Bytes.toNat low) (if high.isEmpty then none else some (Bytes.toNat high)) rest

/-- How far an expression has been read. -/
structure Progress where
  text : Bytes
  /-- How many groups were opened. -/
  opened : Nat := 0
  /-- The groups that are complete. -/
  closed : List Nat := []
  deriving Repr, Inhabited

/-- Puts counts after what was read. Every step of `fuel` reads one. -/
def readCounts (style : Style) : (fuel : Nat) → (isFirst : Bool) → Regex → Progress → Except Flaw (Regex × Progress)
  | 0, _, r, p => .ok (r, p)
  | fuel + 1, isFirst, r, p => do
    let refuses := style.strict && !style.extended && !isFirst
    match ← readSign style.extended p.text with
    | some (.star, rest) =>
      if refuses then throw .nothingBefore
      readCounts style fuel false (.many r 0 none) { p with text := rest }
    | some (.plus, rest) => readCounts style fuel false (.many r 1 none) { p with text := rest }
    | some (.question, rest) => readCounts style fuel false (.many r 0 (some 1)) { p with text := rest }
    | some (.brace, rest) =>
      if refuses then throw .nothingBefore
      match ← readCount style rest with
      | some (least, most, rest) => readCounts style fuel false (.many r least most) { p with text := rest }
      | none => return (r, p)
    | _ => return (r, p)

/-- Whether a caret at the head of a text is followed by something that it cannot count. -/
def endsBranch (extended : Bool) (rest : Bytes) : Bool :=
  match extended, rest with
  | _, [] => true
  | false, '\\' :: ')' :: _ | false, '\\' :: '|' :: _ => true
  | _, _ => false

mutual

/-- Reads alternatives, up to a closing sign if they stand inside a group. -/
def readChoice (style : Style) : (fuel : Nat) → (depth : Nat) → Progress → Except Flaw (Regex × Progress)
  | 0, _, p => .ok (.empty, p)
  | fuel + 1, depth, p => do
    let (first, p) ← readRow style fuel depth true .empty p
    match ← readSign style.extended p.text with
    | some (.bar, rest) =>
      let (second, p) ← readChoice style fuel depth { p with text := rest }
      return (.either first second, p)
    | _ => return (first, p)

/-- Reads what stands in a row, after what was read of it. -/
def readRow (style : Style) : (fuel : Nat) → (depth : Nat) → (isFirst : Bool) → Regex → Progress →
    Except Flaw (Regex × Progress)
  | 0, _, _, before, p => .ok (before, p)
  | fuel + 1, depth, isFirst, before, p => do
    match ← readSign style.extended p.text with
    | none | some (.bar, _) => return (before, p)
    | some (sign, rest) =>
      let onward (r : Regex) (p : Progress) : Except Flaw (Regex × Progress) := do
        let (r, p) ← readCounts style fuel true r p
        readRow style fuel depth false (match before with
          | .empty => r
          | before => .both before r) p
      let edge (r : Regex) (p : Progress) : Except Flaw (Regex × Progress) :=
        readRow style fuel depth true (match before with
          | .empty => r
          | before => .both before r) p
      let p' := { p with text := rest }
      let misplaced (c : Char) : Except Flaw (Regex × Progress) :=
        if !style.extended then onward (.char c) p'
        else if style.strict then throw .nothingBefore
        else readRow style fuel depth isFirst before p'
      match sign with
      | .close =>
        if depth == 0 then
          if style.extended && !style.strict then onward (.char ')') p' else throw .unmatchedClose
        else return (before, p)
      | .open =>
        let number := p.opened + 1
        let (body, p) ← readChoice style fuel (depth + 1) { p' with opened := number }
        match ← readSign style.extended p.text with
        | some (.close, rest) => onward (.group number body) { p with text := rest, closed := number :: p.closed }
        | _ => throw .unmatchedOpen
      | .star => misplaced '*'
      | .plus => misplaced '+'
      | .question => misplaced '?'
      | .brace =>
        if style.strict then throw .nothingBefore
        else if !style.extended then onward (.char '\x7b') p'
        else match ← readCount style rest with
          | some _ => readRow style fuel depth isFirst before p'
          | none => onward (.char '\x7b') p'
      | .caret =>
        let begins := match before with
          | .empty => isFirst
          | _ => false
        if style.extended || begins then edge .lineStart p' else onward (.char '^') p'
      | .dollar => if style.extended || endsBranch style.extended rest then edge .lineEnd p' else onward (.char '$') p'
      | .dot => onward .any p'
      | .bracket =>
        let (negated, text) := match rest with
          | '^' :: text => (true, text)
          | text => (false, text)
        if text.isEmpty then throw .invalid
        let (ranges, rest) ← readSet (text.length + 1) true [] text
        if isStrayClass (text.take (text.length - rest.length)) ranges then throw .strayClass
        onward (.set negated ranges) { p with text := rest }
      | .reference n => if p.closed.contains n then onward (.again n) p' else throw .invalidReference
      | .special (.set negated ranges) => onward (.set negated ranges) p'
      | .special r => edge r p'
      | .literal c => onward (.char c) p'
      | .bar => return (before, p)

end

/-- Reads an expression. -/
def parse (style : Style) (text : Bytes) : Except Flaw Regex := do
  let (r, p) ← readChoice style (4 * text.length + 8) 0 { text }
  match p.text with
  | [] => return r
  | _ => throw .unmatchedClose

end Frontier.Regex
