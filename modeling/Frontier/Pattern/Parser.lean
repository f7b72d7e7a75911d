import Frontier.Pattern.Basic
import Frontier.Text.Number

/-!
# Written patterns

A pattern is written in the usual way: a character stands for itself, a backslash takes a punctuation
character literally, `\s`, `\d` and `\w` are the blanks, the decimal digits and the characters of words, and `\p`
takes the name of a general category; their capitals are the characters that are not in the set. `.` is any
character but a line feed, `*`, `+`, `?` and counts in braces repeat (a question mark after them only asks for the
shortest match, which starts where the longest does), `|` separates choices, parentheses group, `^` and `$` are the
ends of the text, `\b` is an end of a word and `\B` a place that is none. Flags in a group hold up to its end: `i`
makes letters match in both cases, `m` makes `^` and `$` match at every line, `s` makes `.` match line feeds too.

Square brackets hold a set: characters, ranges, named sets and other sets, and `&&`, `--` and `~~` between sets
for what they have in common, their difference, and what is in one of them only.

What is not read, so that a pattern with it counts as not well formed: the flags `x` and `R`, `u` switched off, and
properties other than the general category, such as scripts. How large a pattern becomes is not limited.
-/

namespace Frontier.Pattern
open Text

/-- What the flags before an item ask for. -/
structure Flags where
  folded : Bool := false
  lines : Bool := false
  dotAll : Bool := false
  deriving DecidableEq, Repr, Inhabited

/-- A set as the flags ask for it. -/
def Flags.fold (f : Flags) (s : CharSet) : CharSet := if f.folded then .folded s else s

/-- A set as the flags ask for it, or what is not in it. -/
def Flags.choose (f : Flags) (negated : Bool) (s : CharSet) : CharSet :=
  if negated then .complement (f.fold s) else f.fold s

/-! ## Escapes -/

/-- An ASCII character that a backslash takes literally. -/
def isEscapable (c : Char) : Bool := c.toNat < 0x80 && !c.isAlphanum && c != '<' && c != '>'

/-- What a backslash makes of the text after it. -/
inductive Escape where
  | char (c : Char)
  | set (s : CharSet)
  /-- A place in the text. -/
  | anchor (p : Pattern)

/-- The value of a hexadecimal digit. -/
def hexDigit? (c : Char) : Option Nat :=
  if c.isDigit then some (c.toNat - 48)
  else if 'a' ≤ c ∧ c ≤ 'f' then some (c.toNat - 87)
  else if 'A' ≤ c ∧ c ≤ 'F' then some (c.toNat - 55)
  else none

/-- The character with a number in hexadecimal. -/
def hexChar? (digits : List Char) : Option Char := do
  if digits.isEmpty then none
  let values ← digits.mapM hexDigit?
  let n := values.foldl (fun n d => 16 * n + d) 0
  if h : n.isValidChar then some (Char.ofNatAux n h) else none

/-- A character by its number: in braces, or with a fixed count of digits. -/
def numbered? (count : Nat) : List Char → Option (Escape × List Char)
  | '\x7b' :: cs => do
    let digits := cs.takeWhile (· != '\x7d')
    let c ← hexChar? digits
    if digits.length < cs.length then some (.char c, cs.drop (digits.length + 1)) else none
  | cs => if cs.length < count then none else (hexChar? (cs.take count)).map fun c => (.char c, cs.drop count)

/-- Cuts a text around the first place where `mark` stands. -/
def cutAt? (mark : List Char) : List Char → Option (List Char × List Char)
  | [] => none
  | c :: cs =>
    if mark.isPrefixOf (c :: cs) then some ([], (c :: cs).drop mark.length)
    else (cutAt? mark cs).map fun (before, after) => (c :: before, after)

/-- The name of a property without case, blanks, dashes and underscores, and without a leading `is`. -/
def propertyName (cs : List Char) : String :=
  let isPrefixed := (cs.take 2).map Char.toLower == ['i', 's']
  let name := if isPrefixed then cs.drop 2 else cs
  let name := (name.filter fun c => c.toNat < 0x80 && c != ' ' && c != '_' && c != '-').map Char.toLower
  -- `isc` is the name of a property that describes no set.
  if isPrefixed && name == ['c'] then "isc" else String.ofList name

/-- The characters with a property. -/
def property? (cs : List Char) : Option CharSet :=
  let name := propertyName cs
  if name == "ascii" then some (.ranges [(0, 0x7F)]) else (Category.named? name).map .categories

/-- The characters with a value of a property, which must be the general category. -/
def propertyValue? (property value : List Char) : Option CharSet :=
  if ["gc", "generalcategory"].contains (propertyName property) then property? value else none

/-- A set by a property, as the flags ask for it, or what is not in it: the property is a single letter, or stands in
braces, also as the value of one. -/
def propertySet? (f : Flags) (negated : Bool) : List Char → Option (Escape × List Char)
  | '\x7b' :: cs => do
    let (text, rest) ← cutAt? ['\x7d'] cs
    let (differs, s) ← match cutAt? ['!', '='] text, cutAt? [':'] text, cutAt? ['='] text with
      | some (property, value), _, _ => (propertyValue? property value).map (true, ·)
      | none, some (property, value), _ | none, none, some (property, value) =>
        (propertyValue? property value).map (false, ·)
      | none, none, none => (property? text).map (false, ·)
    some (.set (f.choose (negated != differs) s), rest)
  | '\\' :: _ | [] => none
  | c :: rest => (property? [c]).map fun s => (.set (f.choose negated s), rest)

/-- The start of a word. -/
def wordStart : Pattern := wordEdge false true

/-- The end of a word. -/
def wordEnd : Pattern := wordEdge true false

/-- A place where a word starts or ends. -/
def wordBoundary : Pattern := either wordStart wordEnd

/-- A place inside a word or between words. -/
def noWordBoundary : Pattern := either (wordEdge false false) (wordEdge true true)

/-- Every place either is a boundary of a word or is none. -/
theorem here_noWordBoundary (place : Place) : noWordBoundary.here place = !wordBoundary.here place := by
  cases before : CharSet.inWord place.before <;> cases after : CharSet.inWord place.after <;>
    simp [noWordBoundary, wordBoundary, wordStart, wordEnd, here, before, after]

/-- A boundary of a word, of the kind that a name in braces asks for. -/
def wordBoundary? : List Char → Option (Escape × List Char)
  | '\x7b' :: c :: cs =>
    -- Anything else in braces is a count.
    if c.isAlpha || c == '-' then do
      let (name, rest) ← cutAt? ['\x7d'] (c :: cs)
      let p ← match String.ofList name with
        | "start" => some wordStart
        | "end" => some wordEnd
        | "start-half" => some (.either (wordEdge false false) wordStart)
        | "end-half" => some (.either (wordEdge false false) wordEnd)
        | _ => none
      some (.anchor p, rest)
    else some (.anchor wordBoundary, '\x7b' :: c :: cs)
  | cs => some (.anchor wordBoundary, cs)

/-- Reads an escape after its backslash. Only properties are folded. -/
def escape? (f : Flags) : List Char → Option (Escape × List Char)
  | [] => none
  | c :: rest =>
    if isEscapable c then some (.char c, rest)
    else match c with
      | 's' => some (.set (.ranges blankRanges), rest)
      | 'd' => some (.set (.ranges decimalDigitRanges), rest)
      | 'w' => some (.set .wordly, rest)
      | 'S' => some (.set (.complement (.ranges blankRanges)), rest)
      | 'D' => some (.set (.complement (.ranges decimalDigitRanges)), rest)
      | 'W' => some (.set (.complement .wordly), rest)
      | 'p' => propertySet? f false rest
      | 'P' => propertySet? f true rest
      | 'b' => wordBoundary? rest
      | 'B' => some (.anchor noWordBoundary, rest)
      | '<' => some (.anchor wordStart, rest)
      | '>' => some (.anchor wordEnd, rest)
      | 'n' => some (.char '\n', rest)
      | 't' => some (.char '\t', rest)
      | 'r' => some (.char '\r', rest)
      | 'f' => some (.char '\x0c', rest)
      | 'v' => some (.char '\x0b', rest)
      | 'a' => some (.char '\x07', rest)
      | 'A' => some (.anchor textStart, rest)
      | 'z' => some (.anchor textEnd, rest)
      | 'x' => numbered? 2 rest
      | 'u' => numbered? 4 rest
      | 'U' => numbered? 8 rest
      | _ => none

/-! ## Sets between brackets -/

/-- The ASCII characters with a name. -/
def namedSet? (name : String) : Option (List (Nat × Nat)) :=
  match name with
  | "alnum" => some [(0x30, 0x39), (0x41, 0x5A), (0x61, 0x7A)]
  | "alpha" => some [(0x41, 0x5A), (0x61, 0x7A)]
  | "ascii" => some [(0, 0x7F)]
  | "blank" => some [(0x09, 0x09), (0x20, 0x20)]
  | "cntrl" => some [(0, 0x1F), (0x7F, 0x7F)]
  | "digit" => some [(0x30, 0x39)]
  | "graph" => some [(0x21, 0x7E)]
  | "lower" => some [(0x61, 0x7A)]
  | "print" => some [(0x20, 0x7E)]
  | "punct" => some [(0x21, 0x2F), (0x3A, 0x40), (0x5B, 0x60), (0x7B, 0x7E)]
  | "space" => some [(0x09, 0x0D), (0x20, 0x20)]
  | "upper" => some [(0x41, 0x5A)]
  | "word" => some [(0x30, 0x39), (0x41, 0x5A), (0x5F, 0x5F), (0x61, 0x7A)]
  | "xdigit" => some [(0x30, 0x39), (0x41, 0x46), (0x61, 0x66)]
  | _ => none

/-- A named set after its opening bracket, as in `[:alpha:]` and `[:^alpha:]`. -/
def named? (f : Flags) : List Char → Option (CharSet × List Char)
  | ':' :: cs =>
    let negated := cs.head? == some '^'
    let cs := if negated then cs.tail else cs
    let name := cs.takeWhile (· != ':')
    match cs.drop name.length with
    | ':' :: ']' :: rest =>
      (namedSet? (String.ofList name)).map fun rs => (f.choose negated (.ranges rs), rest)
    | _ => none
  | _ => none

/-- One character or named set of a set. -/
def item? (f : Flags) : List Char → Option (Escape × List Char)
  | '\\' :: rest => escape? f rest
  | c :: rest => some (.char c, rest)
  | [] => none

/-- A character, a range or an escaped set. A dash before the end or before another dash is no range. -/
def setItem? (f : Flags) (cs : List Char) : Option (CharSet × List Char) := do
  let (first, rest) ← item? f cs
  let alone : Option (CharSet × List Char) := match first with
    | .char c => some (.single c, rest)
    | .set s => some (s, rest)
    | .anchor _ => none
  match rest with
  | [] => none
  | '-' :: ']' :: _ | '-' :: '-' :: _ => alone
  | '-' :: more =>
    match first, ← item? f more with
    | .char a, (.char b, rest) => if a.toNat ≤ b.toNat then some (.ranges [(a.toNat, b.toNat)], rest) else none
    | _, _ => none
  | _ => alone

/-- The operations on sets. -/
inductive SetOperation where
  | common
  | without
  | either

/-- Applies an operation. Sets are folded before. -/
def SetOperation.apply (f : Flags) (left right : CharSet) : SetOperation → CharSet
  | common => .common (f.fold left) (f.fold right)
  | without => .without (f.fold left) (f.fold right)
  | either => .either (f.fold left) (f.fold right)

/-- A set half read: the left side of the last operation, and the items since then. -/
structure SetDraft where
  left : Option (CharSet × SetOperation) := none
  items : CharSet := .ranges []

namespace SetDraft

/-- Adds an item. -/
def push (d : SetDraft) (s : CharSet) : SetDraft := { d with items := .union d.items s }

/-- The set read so far. -/
def close (f : Flags) (d : SetDraft) : CharSet :=
  match d.left with
  | some (left, operation) => operation.apply f left d.items
  | none => d.items

/-- Begins the right side of an operation. -/
def operate (f : Flags) (d : SetDraft) (operation : SetOperation) : SetDraft :=
  ⟨some (d.close f, operation), .ranges []⟩

end SetDraft

/-- What stands right after an opening bracket: a circumflex, dashes, or else a bracket that does not close. -/
def setOpening (cs : List Char) : Bool × SetDraft × List Char :=
  let negated := cs.head? == some '^'
  let cs := if negated then cs.tail else cs
  let dashes := cs.takeWhile (· == '-')
  let cs := cs.drop dashes.length
  if !dashes.isEmpty then (negated, ({} : SetDraft).push (.single '-'), cs)
  else match cs with
    | ']' :: rest => (negated, ({} : SetDraft).push (.single ']'), rest)
    | _ => (negated, {}, cs)

/-- Reads a set up to its closing bracket. -/
def set? (f : Flags) : (fuel : Nat) → (negated : Bool) → SetDraft → List Char → Option (CharSet × List Char)
  | 0, _, _, _ => none
  | fuel + 1, negated, d, cs =>
    match cs with
    | [] => none
    | ']' :: rest =>
      some (f.choose negated (d.close f), rest)
    | '&' :: '&' :: rest => set? f fuel negated (d.operate f .common) rest
    | '-' :: '-' :: rest => set? f fuel negated (d.operate f .without) rest
    | '~' :: '~' :: rest => set? f fuel negated (d.operate f .either) rest
    | '[' :: rest =>
      match named? f rest with
      | some (s, rest) => set? f fuel negated (d.push s) rest
      | none => do
        let (negatedInside, inside, rest) := setOpening rest
        let (s, rest) ← set? f fuel negatedInside inside rest
        set? f fuel negated (d.push s) rest
    | cs => do
      let (s, rest) ← setItem? f cs
      set? f fuel negated (d.push s) rest

/-! ## Repetition -/

/-- A number of times. -/
def times (p : Pattern) : Nat → Pattern
  | 0 => nothing
  | n + 1 => seq p (p.times n)

/-- At most a number of times. -/
def upTo (p : Pattern) : Nat → Pattern
  | 0 => nothing
  | n + 1 => either (seq p (p.upTo n)) nothing

/-- Any number of times. -/
def star : Pattern → Pattern
  | many p => many p
  | p => many p

/-- A count in braces: the least and, if there is one, the largest. -/
def counts? (cs : List Char) : Option ((Nat × Option Nat) × List Char) := do
  let number (cs : List Char) : Option (Nat × List Char) :=
    let digits := cs.takeWhile Char.isDigit
    (digitsFrom 0 digits).bind fun n => if digits.isEmpty then none else some (n, cs.drop digits.length)
  let (least, rest) ← number cs
  match rest with
  | '\x7d' :: rest => some ((least, some least), rest)
  | ',' :: '\x7d' :: rest => some ((least, none), rest)
  | ',' :: rest =>
    let (most, rest) ← number rest
    match rest with
    | '\x7d' :: rest => if least ≤ most then some ((least, some most), rest) else none
    | _ => none
  | _ => none

/-- A repetition at the head of a text. -/
def repetition? : List Char → Option (Option (Pattern → Pattern) × List Char)
  | '*' :: rest => some (some star, rest)
  | '+' :: rest => some (some fun p => seq p (star p), rest)
  | '?' :: rest => some (some (either · nothing), rest)
  | '\x7b' :: rest =>
    match counts? rest with
    | some ((least, some most), rest) => some (some fun p => seq (p.times least) (p.upTo (most - least)), rest)
    | some ((least, none), rest) => some (some fun p => seq (p.times least) (star p), rest)
    | none => some (none, rest)
  | _ => none

/-! ## Whole patterns -/

/-- A pattern half read: the choices before the last bar, and the items since then, latest first. Flags are items
that cannot be repeated. -/
structure Draft where
  choices : Option Pattern := none
  items : List (Option Pattern) := []
  deriving Repr, Inhabited

namespace Draft

/-- Adds an item. -/
def push (d : Draft) (p : Pattern) : Draft := { d with items := some p :: d.items }

/-- The pattern read so far. -/
def close (d : Draft) : Pattern :=
  let last := d.items.foldl (fun rest p => (p.getD nothing).andThen rest) nothing
  match d.choices with
  | some first => Pattern.either first last
  | none => last

/-- Begins another choice. -/
def bar (d : Draft) : Draft := { choices := some d.close }

/-- Applies a repetition to the last item, if there is one. -/
def repeated (d : Draft) (f : Pattern → Pattern) : Option Draft :=
  match d.items with
  | some p :: more => some { d with items := some (f p) :: more }
  | _ => none

end Draft

/-- Reads flags up to what ends them: a colon before a group, or a parenthesis. -/
def flags? (f : Flags) (on given : Bool) : List Char → Option (Flags × Char × List Char)
  | 'i' :: rest => flags? { f with folded := on } on true rest
  | 'm' :: rest => flags? { f with lines := on } on true rest
  | 's' :: rest => flags? { f with dotAll := on } on true rest
  | 'u' :: rest => if on then flags? f on true rest else none
  | 'U' :: rest => flags? f on true rest
  | '-' :: rest => if on then flags? f false false rest else none
  | ':' :: rest => if on || given then some (f, ':', rest) else none
  | ')' :: rest => if given then some (f, ')', rest) else none
  | _ => none

/-- The name of a group, after its opening. -/
def groupName? (cs : List Char) : Option (List Char) :=
  let name := cs.takeWhile (· != '>')
  let isNamePart (c : Char) := c.isAlphanum || c == '_' || c == '.' || c == '[' || c == ']'
  if name.isEmpty || name.head?.any Char.isDigit || !name.all isNamePart || name.length == cs.length then none
  else some (cs.drop (name.length + 1))

/-- Reads up to the end of the text or of a group that is `depth` deep. -/
def items? : (fuel : Nat) → (depth : Nat) → Flags → Draft → List Char → Option (Pattern × List Char)
  | 0, _, _, _, _ => none
  | fuel + 1, depth, f, d, cs =>
    let inGroup (f' : Flags) (rest : List Char) : Option (Pattern × List Char) := do
      let (p, rest) ← items? fuel (depth + 1) f' {} rest
      items? fuel depth f (d.push p) rest
    match cs with
    | [] => if depth == 0 then some (d.close, []) else none
    | '|' :: rest => items? fuel depth f d.bar rest
    | ')' :: rest => if depth == 0 then none else some (d.close, rest)
    | '(' :: '?' :: 'P' :: '<' :: rest => (groupName? rest).bind (inGroup f)
    | '(' :: '?' :: '<' :: rest => (groupName? rest).bind (inGroup f)
    | '(' :: '?' :: rest =>
      match flags? f true false rest with
      | some (f', ':', rest) => inGroup f' rest
      | some (f', _, rest) => items? fuel depth f' { d with items := none :: d.items } rest
      | none => none
    | '(' :: rest => inGroup f rest
    | '[' :: rest => do
      let (negated, opening, rest) := setOpening rest
      let (s, rest) ← set? f (rest.length + 1) negated opening rest
      items? fuel depth f (d.push (.one s)) rest
    | '.' :: rest =>
      items? fuel depth f (d.push (.one (.complement (if f.dotAll then .ranges [] else .single '\n')))) rest
    | '^' :: rest => items? fuel depth f (d.push (if f.lines then lineStart else textStart)) rest
    | '$' :: rest => items? fuel depth f (d.push (if f.lines then lineEnd else textEnd)) rest
    | '\\' :: rest =>
      match escape? f rest with
      | some (.char c, rest) => items? fuel depth f (d.push (.one (f.fold (.single c)))) rest
      | some (.set s, rest) => items? fuel depth f (d.push (.one s)) rest
      | some (.anchor p, rest) => items? fuel depth f (d.push p) rest
      | none => none
    | c :: rest =>
      match repetition? (c :: rest) with
      | some (some repeats, rest) => do
        let d ← d.repeated repeats
        items? fuel depth f d (if rest.head? == some '?' then rest.tail else rest)
      | some (none, _) => none
      | none => items? fuel depth f (d.push (.one (f.fold (.single c)))) rest

/-- Reads a pattern; `none` when it is not well formed. -/
def parse? (cs : List Char) : Option Pattern := (items? (cs.length + 1) 0 {} {} cs).map (·.1)

end Frontier.Pattern
