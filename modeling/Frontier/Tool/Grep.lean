import Frontier.Regex.Parser
import Frontier.Tool.Basic

/-!
# Finding lines
-/

namespace Frontier.Tool
namespace Grep

/-- How patterns are read. -/
inductive Kind where
  | basic
  | extended
  | fixed
  deriving DecidableEq, Repr, Inhabited

/-- What is looked for, and what is printed. -/
structure Search where
  pattern : Regex
  ignoresCase : Bool
  inverted : Bool
  words : Bool
  lines : Bool
  counts : Bool
  /-- Only the names of files are printed: of those with matches, or of those without. -/
  names : Option Bool
  numbers : Bool
  offsets : Bool
  onlyMatches : Bool
  quiet : Bool
  silent : Bool
  withNames : Bool
  lineBuffered : Bool
  most : Option Nat
  before : Nat
  after : Nat
  separator : Char
  deriving Inhabited

/-- A pattern of plain characters. -/
def literal : Bytes → Regex
  | [] => .empty
  | [c] => .char c
  | c :: rest => .both (.char c) (literal rest)

/-- An expression for any of several. -/
def oneOf : List Regex → Regex
  | [] => .set false []
  | [r] => r
  | r :: rest => .either r (oneOf rest)

/-- Whether the places around a match are no word characters. -/
def isWordAt (text : Array Char) (first last : Nat) : Bool :=
  !((if first == 0 then none else text[first - 1]?).any Regex.isWordChar) && !(text[last]?.any Regex.isWordChar)

/-- The first match that counts, from a place on: where it begins and ends. Every step of `fuel` goes on by one. -/
def matchFrom (s : Search) (text : Array Char) : (fuel : Nat) → Regex.Cursor → Option (Nat × Nat)
  | 0, _ => none
  | fuel + 1, c =>
    let m : Regex.Manner := { ignoresCase := s.ignoresCase }
    let ends := s.pattern.endsFrom m text c
    let last := if s.lines then (if c.place == 0 then ends.find? (· == text.size) else none)
      else if s.words then ends.find? (isWordAt text c.place)
      else ends.head?
    match last with
    | some last => some (c.place, last)
    | none => match c.next? with
      | some (_, c) => matchFrom s text fuel c
      | none => none

/-- The first match in a line, from a place on. -/
def find? (s : Search) (line : Bytes) (start : Nat) : Option (Nat × Nat) :=
  let c : Regex.Cursor := ({ place := 0, before := none, rest := line } : Regex.Cursor).advance start
  matchFrom s line.toArray (line.length + 2 - start) c

/-- All matches in a line that have a length, with their places. Every step of `fuel` finds one. -/
def allMatches (s : Search) (line : Bytes) : (fuel : Nat) → Nat → List (Nat × Bytes)
  | 0, _ => []
  | fuel + 1, start =>
    match find? s line start with
    | none => []
    | some (first, last) =>
      if first < last then (first, (line.drop first).take (last - first)) :: allMatches s line fuel last
      else if first < line.length then allMatches s line fuel (first + 1)
      else []

/-- How far a file has been searched. -/
structure Progress where
  printer : Printer
  /-- How many lines were read. -/
  read : Nat := 0
  /-- How many bytes were read, with the lines before this one. -/
  offset : Nat := 0
  /-- How many lines were selected. -/
  selected : Nat := 0
  /-- The lines before this one that may still be printed, with their numbers and offsets, latest first. -/
  held : List (Nat × Nat × Bytes) := []
  /-- How many more lines are printed after a selected one. -/
  left : Nat := 0
  /-- The last line that was printed. -/
  shown : Option Nat := none
  deriving Inhabited

/-- Prints a line with what stands before it. -/
def show? (i : Invocation) (s : Search) (file : Bytes) (mark : Char) (number offset : Nat) (line : Bytes) (p : Progress) :
    Plan Progress := do
  let head := (if s.withNames then file ++ [mark] else []) ++ (if s.numbers then Bytes.ofNat number ++ [mark] else []) ++
    (if s.offsets then Bytes.ofNat offset ++ [mark] else [])
  let gap := (0 < s.before || 0 < s.after) && p.shown.any (· + 1 < number)
  let printer ← p.printer.put i ((if gap then bytesOf "--\n" else []) ++ head ++ line ++ [s.separator])
  return { p with printer, shown := some number }

/-- Looks at a line; tells whether no more lines are to be read. -/
def look (i : Invocation) (s : Search) (file : Bytes) (line : Bytes) (p : Progress) : Plan (Progress × Bool) := do
  let number := p.read + 1
  let offset := p.offset
  let p := { p with read := number, offset := offset + line.length + 1 }
  if (find? s line 0).isSome != s.inverted then
    let p := { p with selected := p.selected + 1 }
    let isLast := s.most.any (· ≤ p.selected)
    if s.quiet || s.names.isSome then return (p, true)
    else if s.counts then return (p, isLast)
    else if line.contains '\x00' then
      i.complain (file ++ bytesOf ": binary file matches")
      return (p, true)
    else if s.onlyMatches then
      let found := if s.inverted then [] else allMatches s line (line.length + 1) 0
      let p ← found.foldlM (fun p (first, found) => show? i s file ':' number (offset + first) found p) { p with shown := none }
      return ({ p with shown := none }, isLast)
    else
      let p ← p.held.reverse.foldlM (fun p (n, o, line) => show? i s file '-' n o line p) { p with held := [] }
      let p ← show? i s file ':' number offset line p
      return ({ p with left := s.after }, isLast && s.after == 0)
  else
    let isOver := s.most.any (· ≤ p.selected)
    if 0 < p.left && !s.onlyMatches && !s.counts then
      let p ← show? i s file '-' number offset line p
      return ({ p with left := p.left - 1 }, isOver && p.left ≤ 1)
    else return ({ p with held := ((number, offset, line) :: p.held).take s.before }, isOver)

/-- Reads a number that an option gives. -/
def number (i : Invocation) (what : String) (text : Bytes) : Plan Nat := do
  match Bytes.toNat? text with
  | some n => return n
  | none =>
    i.complain (bytesOf what)
    Plan.exit 2

/-- Gives the digits of a context, `-5`, to the letter for it. -/
def contextArgs (args : List Bytes) : List Bytes :=
  args.flatMap fun arg => match arg with
    | '-' :: digits => if !digits.isEmpty && digits.all Char.isDigit then ['-' :: 'C' :: digits] else [arg]
    | _ => [arg]

/-- Writes out the letters for digits. -/
def withDigits : Bytes → Bytes
  | '\\' :: 'd' :: rest => bytesOf "[0-9]" ++ withDigits rest
  | '\\' :: 'D' :: rest => bytesOf "[^0-9]" ++ withDigits rest
  | '\\' :: c :: rest => '\\' :: c :: withDigits rest
  | c :: rest => c :: withDigits rest
  | [] => []

/-- Options. -/
def forms : List OptionForm := switches "EFGivwxclLnoqshHbazrRUIyPT" ++
  [{ letter := 'E', long := "extended-regexp" }, { letter := 'F', long := "fixed-strings" }, { letter := 'i', long := "ignore-case" },
    { letter := 'v', long := "invert-match" }, { letter := 'w', long := "word-regexp" }, { letter := 'x', long := "line-regexp" },
    { letter := 'c', long := "count" }, { letter := 'l', long := "files-with-matches" }, { letter := 'L', long := "files-without-match" },
    { letter := 'n', long := "line-number" }, { letter := 'o', long := "only-matching" }, { letter := 'q', long := "quiet" },
    { letter := 'q', long := "silent" }, { letter := 's', long := "no-messages" }, { letter := 'h', long := "no-filename" },
    { letter := 'H', long := "with-filename" }, { letter := 'a', long := "text" }, { letter := 'z', long := "null-data" },
    { letter := 'e', takes := .value, long := "regexp" }, { letter := 'f', takes := .value, long := "file" },
    { letter := 'm', takes := .value, long := "max-count" }, { letter := 'A', takes := .value, long := "after-context" },
    { letter := 'B', takes := .value, long := "before-context" }, { letter := 'C', takes := .value, long := "context" },
    { letter := '\x01', long := "line-buffered" }, { letter := '\x02', takes := .maybe, long := "color" },
    { letter := '\x02', takes := .maybe, long := "colour" },
    { letter := 'b', long := "byte-offset" }, { letter := '\x03', takes := .value, long := "include" },
    { letter := '\x03', takes := .value, long := "exclude" }]

/-- Patterns from a file. -/
def fromFile (i : Invocation) (file : Bytes) : Plan (List Bytes) := do
  match ← openInput file with
  | .error e =>
    i.complain (file ++ bytesOf ": " ++ e.message)
    Plan.exit 2
  | .ok d =>
    match ← readAll d with
    | .ok all => return Bytes.lines '\n' all
    | .error e =>
      i.complain (file ++ bytesOf ": " ++ e.message)
      Plan.exit 2

end Grep

/-- Prints the lines of files in which a pattern is found. -/
def grepAs (kind : Grep.Kind) (called : Invocation) : Plan Nat := do
  let i := { called with name := ((Bytes.split '/' called.name).getLast?).getD called.name }
  let (given, args) ← match Tool.options Grep.forms true (Grep.contextArgs i.args) with
    | .ok parsed => pure parsed
    | .error e => do
      i.complain e
      say (bytesOf "Usage: grep [OPTION]... PATTERNS [FILE]...")
      say (bytesOf "Try 'grep --help' for more information.")
      Plan.exit 2
  let kind := given.foldl (fun kind (c, _) =>
    if c == 'E' || c == 'P' then .extended else if c == 'F' then .fixed else if c == 'G' then .basic else kind) kind
  let mut patterns : List Bytes := []
  for (c, value) in given do
    if c == 'e' then patterns := patterns ++ Bytes.split '\n' (value.getD [])
    if c == 'f' then patterns := patterns ++ (← Grep.fromFile i (value.getD []))
  let named := has given 'e' || has given 'f'
  if !named && args.isEmpty then
    say (bytesOf "Usage: grep [OPTION]... PATTERNS [FILE]...")
    say (bytesOf "Try 'grep --help' for more information.")
    Plan.exit 2
  if !named then patterns := Bytes.split '\n' (args.headD [])
  let files := if named then args else args.tail
  let parsed := patterns.map fun text =>
    if kind == .fixed then .ok (Grep.literal text) else Regex.parse { extended := kind == .extended } (if has given 'P' then Grep.withDigits text else text)
  for p in parsed do
    match p with
    | .ok _ => pure ()
    | .error e =>
      i.complain e.message
      Plan.exit 2
  let context ← match value? given 'C' with
    | some text => Grep.number i (String.ofList text ++ ": invalid context length argument") text
    | none => pure 0
  let before ← match value? given 'B' with
    | some text => Grep.number i (String.ofList text ++ ": invalid context length argument") text
    | none => pure context
  let after ← match value? given 'A' with
    | some text => Grep.number i (String.ofList text ++ ": invalid context length argument") text
    | none => pure context
  let most ← match value? given 'm' with
    | some text => some <$> Grep.number i "invalid max count" text
    | none => pure none
  let s : Grep.Search := {
    pattern := Grep.oneOf (parsed.filterMap Except.toOption), ignoresCase := has given 'i' || has given 'y'
    inverted := has given 'v', words := has given 'w', lines := has given 'x', counts := has given 'c'
    names := if has given 'l' then some true else if has given 'L' then some false else none
    numbers := has given 'n', offsets := has given 'b', onlyMatches := has given 'o', quiet := has given 'q', silent := has given 's'
    withNames := has given 'H' || 1 < files.length && !has given 'h', lineBuffered := has given '\x01', most, before, after
    separator := if has given 'z' then '\x00' else '\n' }
  let mut printer : Printer := { immediate := s.lineBuffered }
  let mut found := false
  let mut failed := false
  for file in (if files.isEmpty then [['-']] else files) do
    match ← openInput file with
    | .error e =>
      if !s.silent then i.complain (file ++ bytesOf ": " ++ e.message)
      failed := true
    | .ok d =>
      let shown := if file == ['-'] then bytesOf "(standard input)" else file
      let begun : Grep.Progress := { printer }
      let (p, fine) ← Plan.loop (({ descriptor := d } : Reader), begun) fun (r, p) => do
        match ← r.line s.separator with
        | (.error e, _) =>
          if !s.silent then i.complain (file ++ bytesOf ": " ++ e.message)
          return .inr (p, false)
        | (.ok none, _) => return .inr (p, true)
        | (.ok (some (line, _)), r) =>
          if s.most == some 0 then return .inr (p, true)
          let (p, stop) ← Grep.look i s shown line p
          if stop then return .inr (p, true) else return .inl (r, p)
      printer := p.printer
      if !fine then failed := true
      if 0 < p.selected then found := true
      if s.quiet && found then return 0
      if s.counts && s.names.isNone then
        printer ← printer.put i ((if s.withNames then shown ++ [':'] else []) ++ Bytes.ofNat p.selected ++ ['\n'])
      if s.names == some (decide (0 < p.selected)) && !s.quiet then printer ← printer.put i (shown ++ ['\n'])
      closeInput d
  let _ ← printer.flush i
  return if failed then 2 else if found then 0 else 1

def grep : Invocation → Plan Nat := grepAs .basic

def egrep : Invocation → Plan Nat := grepAs .extended

def fgrep : Invocation → Plan Nat := grepAs .fixed

end Frontier.Tool
