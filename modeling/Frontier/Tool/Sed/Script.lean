import Frontier.Regex.Parser

/-!
# Scripts that edit lines

A script is a row of commands, each with the lines that it applies to. Blocks are kept as jumps in the row.
-/

namespace Frontier.Tool.Sed

/-- An expression, or the one that was used last. -/
structure Pattern where
  regex : Option Regex
  ignoresCase : Bool := false
  byLines : Bool := false
  deriving Repr, Inhabited

/-- A line that a command applies to. -/
inductive Address where
  | line (n : Nat)
  /-- Every so many lines, from a first one on. -/
  | step (first size : Nat)
  | last
  | pattern (p : Pattern)
  deriving Repr, Inhabited

/-- Where a range of lines ends. -/
inductive RangeEnd where
  | address (a : Address)
  /-- So many lines later. -/
  | plus (n : Nat)
  /-- At the next multiple. -/
  | multiple (n : Nat)
  deriving Repr, Inhabited

/-- The lines that a command applies to. -/
structure Selector where
  first : Option Address := none
  last : Option RangeEnd := none
  negated : Bool := false
  deriving Repr, Inhabited

/-- How letters are changed in a replacement. -/
inductive Casing where
  | upper
  | lower
  | plain
  | upperNext
  | lowerNext
  deriving DecidableEq, Repr, Inhabited

/-- A part of a replacement. -/
inductive Part where
  | text (c : Char)
  | group (n : Nat)
  | casing (c : Casing)
  deriving DecidableEq, Repr, Inhabited

/-- A substitution. -/
structure Substitution where
  pattern : Pattern
  replacement : List Part
  global : Bool := false
  number : Nat := 1
  prints : Bool := false
  file : Option Bytes := none
  deriving Repr, Inhabited

/-- What a command does. -/
inductive Action where
  /-- A block, up to the place after its end. -/
  | block (after : Nat)
  | blockEnd
  | label (name : Bytes)
  | jump (label : Bytes)
  | jumpIf (label : Bytes)
  | jumpUnless (label : Bytes)
  | append (text : Bytes)
  | insert (text : Bytes)
  | change (text : Bytes)
  | delete
  | deleteFirst
  | number
  | fileName
  | holdCopy
  | holdAppend
  | fetchCopy
  | fetchAppend
  | exchange
  | show (width : Option Nat)
  | next
  | nextAppend
  | print
  | printFirst
  | quit (status : Nat)
  | quitSilently (status : Nat)
  | readFile (name : Bytes)
  | readLine (name : Bytes)
  | substitute (s : Substitution)
  | write (name : Bytes)
  | writeFirst (name : Bytes)
  | translate (table : List (Char × Char))
  | clear
  | nothing
  deriving Repr, Inhabited

/-- A command. -/
structure Command where
  selector : Selector
  action : Action
  deriving Repr, Inhabited

/-- Why a script cannot be read: a message, and how many characters had been read, if that is told. -/
structure Flaw where
  message : Bytes
  place : Option Nat
  deriving Repr, Inhabited

/-- Reading a script: what is left of it, and how long it was. -/
abbrev Parser := ExceptT Flaw (StateM (Bytes × Nat))

namespace Parser

/-- A message at the place that was reached. -/
def fail {α : Type} (message : String) : Parser α := do
  let (rest, size) ← get
  throw ⟨bytesOf message, some (size - rest.length)⟩

/-- As `fail`, for the script as a whole. -/
def failAtAll {α : Type} (message : Bytes) : Parser α := throw ⟨message, some 0⟩

/-- The next character. -/
def peek : Parser (Option Char) := return (← get).1.head?

/-- Reads a character. -/
def next : Parser (Option Char) := do
  let (rest, size) ← get
  set (rest.tail, size)
  return rest.head?

/-- Reads characters as long as they fit. -/
def span (p : Char → Bool) : Parser Bytes := do
  let (rest, size) ← get
  let taken := rest.takeWhile p
  set (rest.drop taken.length, size)
  return taken

/-- Passes blanks. -/
def blanks : Parser Unit := do
  let _ ← span fun c => Bytes.isSpace c && c != '\n'

/-- Reads a number. -/
def number : Parser Nat := return Bytes.toNat (← span Char.isDigit)

/-- The character that an escape stands for, and what follows it. -/
def charEscape? : Bytes → Option (Char × Bytes)
  | 'a' :: rest => some ('\x07', rest)
  | 'f' :: rest => some ('\x0c', rest)
  | 'n' :: rest => some ('\n', rest)
  | 'r' :: rest => some ('\r', rest)
  | 't' :: rest => some ('\t', rest)
  | 'v' :: rest => some ('\x0b', rest)
  | 'c' :: c :: rest => some (Char.ofNat ((c.toUpper.toNat).xor 64), rest)
  | kind :: rest =>
    let form : Option (Nat × Nat) := match kind with
      | 'd' => some (10, 3)
      | 'o' => some (8, 3)
      | 'x' => some (16, 2)
      | _ => none
    form.bind fun (base, most) =>
      let digits := (rest.take most).takeWhile fun c => Bytes.digitValue c < base
      if digits.isEmpty then none
      else some (Char.ofNat ((Bytes.readDigits base 0 digits).1 % 256), rest.drop digits.length)
  | [] => none

/-- An expression with its escapes for single characters replaced. Every step of `fuel` reads a character. -/
def unescaped : (fuel : Nat) → Bytes → Bytes
  | 0, _ | _ + 1, [] => []
  | fuel + 1, '\\' :: rest =>
    match charEscape? rest with
    | some (c, after) =>
      let shown := if "*.[]^$/+?()|\x7b\x7d\\".toList.contains c then ['\\', c] else [c]
      shown ++ unescaped fuel after
    | none => match rest with
      | c :: rest => '\\' :: c :: unescaped fuel rest
      | [] => ['\\']
  | fuel + 1, c :: rest => c :: unescaped fuel rest

/-- How many characters of a text belong to a set that has begun with an opening bracket, up to the end of a line; `inner`
is the sign of a part in brackets of its own. -/
def setLength : (inner : Option Char) → Bytes → Nat
  | _, [] | _, '\n' :: _ => 0
  | none, ']' :: _ => 1
  | none, '[' :: c :: rest => if [':', '.', '='].contains c then setLength (some c) rest + 2 else setLength none (c :: rest) + 1
  | none, _ :: rest => setLength none rest + 1
  | some sign, c :: d :: rest => if c == sign && d == ']' then setLength none rest + 2 else setLength (some sign) (d :: rest) + 1
  | some _, [_] => 1

/-- As `setLength`, from the opening bracket on. -/
def setLengthFrom : Bytes → Nat
  | '^' :: ']' :: rest => setLength none rest + 2
  | ']' :: rest => setLength none rest + 1
  | text => setLength none text

/-- Reads up to a delimiter that no backslash stands before; none if it does not come. Every step of `fuel` reads a
character. -/
def untilDelimiter (delimiter : Char) (isPattern : Bool) : (fuel : Nat) → Bytes → Parser (Option Bytes)
  | 0, _ => return none
  | fuel + 1, seen => do
    if isPattern && (← peek) == some '\n' then return none
    match ← next with
    | none => return none
    | some c =>
      if c == delimiter then return some seen.reverse
      else if c == '[' && isPattern then
        let (rest, size) ← get
        let taken := rest.take (setLengthFrom rest)
        set (rest.drop taken.length, size)
        untilDelimiter delimiter isPattern fuel (taken.reverse ++ c :: seen)
      else if c == '\\' then
        match ← next with
        | none => return none
        | some d =>
          if d == delimiter && !(!isPattern && d == '&') then untilDelimiter delimiter isPattern fuel (d :: seen)
          else untilDelimiter delimiter isPattern fuel (d :: '\\' :: seen)
      else untilDelimiter delimiter isPattern fuel (c :: seen)

/-- As `untilDelimiter`, with as many steps as the script may need. -/
def delimited (delimiter : Char) (isPattern : Bool) : Parser (Option Bytes) := do
  untilDelimiter delimiter isPattern ((← get).1.length + 1) []

/-- Makes a pattern of a text. -/
def pattern (extended : Bool) (text : Bytes) (ignoresCase byLines : Bool) : Parser Pattern := do
  if text.isEmpty then return { regex := none, ignoresCase, byLines }
  match Regex.parse { extended, strict := true } (unescaped (text.length + 1) text) with
  | .ok r => return { regex := some r, ignoresCase, byLines }
  | .error .strayClass => throw ⟨Regex.Flaw.strayClass.message, none⟩
  | .error e => fail (String.ofList e.message)

/-- Reads an address. -/
def address (extended : Bool) : Parser (Option Address) := do
  match ← peek with
  | some '$' =>
    let _ ← next
    return some .last
  | some c =>
    if c.isDigit then
      let first ← number
      if (← peek) == some '~' then
        let _ ← next
        return some (.step first (← number))
      return some (.line first)
    else if c == '/' || c == '\\' then
      let _ ← next
      let delimiter ← if c == '\\' then next else pure (some '/')
      match ← delimited (delimiter.getD '/') true with
      | none => fail "unterminated address regex"
      | some text =>
        let flags ← span fun c => c == 'I' || c == 'M'
        return some (.pattern (← pattern extended text (flags.contains 'I') (flags.contains 'M')))
    else return none
  | none => return none

/-- Reads the lines that a command applies to. -/
def selector (extended : Bool) : Parser Selector := do
  let first ← address extended
  blanks
  let last ← if first.isSome && (← peek) == some ',' then do
      let _ ← next
      blanks
      match ← peek with
      | some '+' =>
        let _ ← next
        pure (some (.plus (← number)))
      | some '~' =>
        let _ ← next
        pure (some (.multiple (← number)))
      | _ =>
        match ← address extended with
        | some a => pure (some (.address a))
        | none =>
          let _ ← next
          fail "unexpected \x60,'"
    else pure none
  match first, last with
  | some (.line 0), some (.address (.pattern _)) => pure ()
  | some (.line 0), _ =>
    let _ ← next
    fail "invalid usage of line address 0"
  | _, _ => pure ()
  blanks
  let marks ← span fun c => c == '!' || c == ' '
  if 1 < marks.count '!' then fail "multiple \x60!'s"
  return { first, last, negated := marks.contains '!' }

/-- Reads the end of a command. -/
def commandEnd : Parser Unit := do
  blanks
  match ← peek with
  | none | some '\x7d' | some '#' => pure ()
  | some c =>
    let _ ← next
    if c != '\n' && c != ';' then fail "extra characters after command"

/-- Reads the name of a label. -/
def labelName : Parser Bytes := do
  blanks
  span fun c => !Bytes.isSpace c && c != ';'

/-- Reads the name of a file. -/
def file : Parser Bytes := do
  blanks
  let name ← span (· != '\n')
  let _ ← next
  if name.isEmpty then fail "missing filename in r/R/w/W commands"
  return name

/-- Reads text up to a line end that no backslash stands before. Every step of `fuel` reads a character. -/
def textFrom : (fuel : Nat) → Bytes → Parser Bytes
  | 0, seen => return seen.reverse
  | fuel + 1, seen => do
    match ← next with
    | none => return seen.reverse
    | some '\n' => return seen.reverse
    | some '\\' =>
      let (rest, size) ← get
      match rest with
      | 'n' :: _ =>
        set (rest.tail, size)
        textFrom fuel ('n' :: seen)
      | _ =>
        match charEscape? rest with
        | some (c, rest) =>
          set (rest, size)
          textFrom fuel (c :: seen)
        | none =>
          match ← next with
          | some c => textFrom fuel (c :: seen)
          | none => return seen.reverse
    | some c => textFrom fuel (c :: seen)

/-- Reads the text of a command. A backslash may stand before it; one at the end of the script stands for no text at
all. -/
def text : Parser Bytes := do
  blanks
  match ← peek with
  | none => fail "expected \\ after \x60a', \x60c' or \x60i'"
  | some '\\' =>
    let _ ← next
    match ← peek with
    | none => return []
    | some '\n' =>
      let _ ← next
      pure ()
    | _ => pure ()
  | some _ => pure ()
  let body ← textFrom ((← get).1.length + 1) []
  return body ++ ['\n']

/-- Reads a replacement. Every step of `fuel` reads a character. -/
def parts : (fuel : Nat) → Bytes → List Part
  | 0, _ | _ + 1, [] => []
  | fuel + 1, '&' :: rest => .group 0 :: parts fuel rest
  | fuel + 1, '\\' :: c :: rest =>
    if c.isDigit then .group (c.toNat - 48) :: parts fuel rest
    else match c with
      | 'L' => .casing .lower :: parts fuel rest
      | 'U' => .casing .upper :: parts fuel rest
      | 'E' => .casing .plain :: parts fuel rest
      | 'l' => .casing .lowerNext :: parts fuel rest
      | 'u' => .casing .upperNext :: parts fuel rest
      | c => match charEscape? (c :: rest) with
        | some (d, rest) => .text d :: parts fuel rest
        | none => .text c :: parts fuel rest
  | fuel + 1, c :: rest => .text c :: parts fuel rest

/-- What flags of a substitution say. -/
structure Flags where
  global : Bool := false
  number : Option Nat := none
  prints : Bool := false
  ignoresCase : Bool := false
  byLines : Bool := false
  file : Option Bytes := none
  deriving Repr, Inhabited

/-- Reads the flags of a substitution. Every step of `fuel` reads one. -/
def flags : (fuel : Nat) → Flags → Parser Flags
  | 0, f => return f
  | fuel + 1, f => do
    match ← peek with
    | none | some '\x7d' | some '#' => return f
    | some c =>
      if c.isDigit then
        let n ← number
        if n == 0 then fail "number option to \x60s' command may not be zero"
        if f.number.isSome then fail "multiple number options to \x60s' command"
        return ← flags fuel { f with number := some n }
      let _ ← next
      match c with
      | 'g' =>
        if f.global then fail "multiple \x60g' options to \x60s' command"
        flags fuel { f with global := true }
      | 'p' =>
        if f.prints then fail "multiple \x60p' options to \x60s' command"
        flags fuel { f with prints := true }
      | 'i' | 'I' => flags fuel { f with ignoresCase := true }
      | 'm' | 'M' => flags fuel { f with byLines := true }
      | 'w' => return { f with file := some (← file) }
      | '\n' | ';' => return f
      | c => if Bytes.isSpace c then flags fuel f else fail "unknown option to \x60s'"

/-- Reads a substitution. -/
def substitution (extended : Bool) : Parser Action := do
  let delimiter := (← next).getD '\n'
  let unterminated : Parser Action := fail "unterminated \x60s' command"
  match ← delimited delimiter true with
  | none => unterminated
  | some text =>
    match ← delimited delimiter false with
    | none => unterminated
    | some shown =>
      let f ← flags ((← get).1.length + 1) {}
      let pattern ← pattern extended text f.ignoresCase f.byLines
      let replacement := parts (shown.length + 1) shown
      let most := replacement.foldl (fun most p => match p with
        | .group n => max most n
        | _ => most) 0
      if pattern.regex.any fun r => r.groups < most then
        fail (s!"invalid reference \\{most} on " ++ "\x60s' command's RHS")
      return .substitute {
        pattern, replacement, global := f.global, number := f.number.getD 1, prints := f.prints, file := f.file }

/-- The characters of a list to translate. Every step of `fuel` reads one or two. -/
def listed : (fuel : Nat) → Bytes → Bytes
  | 0, _ | _ + 1, [] => []
  | fuel + 1, '\\' :: c :: rest =>
    if c == '\\' then '\\' :: listed fuel rest
    else match charEscape? (c :: rest) with
      | some (d, rest) => d :: listed fuel rest
      | none => '\\' :: c :: listed fuel rest
  | fuel + 1, c :: rest => c :: listed fuel rest

/-- Reads a translation. -/
def translation : Parser Action := do
  let delimiter := (← next).getD '\n'
  let unterminated : Parser Action := fail "unterminated \x60y' command"
  match ← delimited delimiter false with
  | none => unterminated
  | some source =>
    match ← delimited delimiter false with
    | none => unterminated
    | some target =>
      let source := listed (source.length + 1) source
      let target := listed (target.length + 1) target
      if source.length != target.length then fail "strings for \x60y' command are different lengths"
      commandEnd
      return .translate (source.zip target)

/-- A command that nothing follows. -/
def bare (a : Action) : Parser Action := do
  commandEnd
  return a

/-- A command that a number may follow. -/
def counted (f : Option Nat → Action) : Parser Action := do
  blanks
  let digits ← span Char.isDigit
  commandEnd
  return f (Bytes.toNat? digits)

/-- Reads what a command does; blocks are read elsewhere. -/
def action (extended : Bool) (c : Char) : Parser Action := do
  match c with
  | '=' => bare .number
  | 'a' => return .append (← text)
  | 'b' => do
    let name ← labelName
    bare (.jump name)
  | 't' => do
    let name ← labelName
    bare (.jumpIf name)
  | 'T' => do
    let name ← labelName
    bare (.jumpUnless name)
  | 'c' => return .change (← text)
  | 'd' => bare .delete
  | 'D' => bare .deleteFirst
  | 'F' => bare .fileName
  | 'g' => bare .fetchCopy
  | 'G' => bare .fetchAppend
  | 'h' => bare .holdCopy
  | 'H' => bare .holdAppend
  | 'i' => return .insert (← text)
  | 'l' => counted .show
  | 'n' => bare .next
  | 'N' => bare .nextAppend
  | 'p' => bare .print
  | 'P' => bare .printFirst
  | 'q' => counted fun n => .quit (n.getD 0)
  | 'Q' => counted fun n => .quitSilently (n.getD 0)
  | 'r' => return .readFile (← file)
  | 'R' => return .readLine (← file)
  | 's' => substitution extended
  | 'w' => return .write (← file)
  | 'W' => return .writeFirst (← file)
  | 'v' => do
    let _ ← labelName
    bare .nothing
  | 'x' => bare .exchange
  | 'y' => translation
  | 'z' => bare .clear
  | c => fail ("unknown command: \x60" ++ String.ofList [c] ++ "'")

/-- Reads commands; `opened` are the places of the blocks that are open, the innermost first. Every step of `fuel` reads
a command. -/
def commands (extended : Bool) : (fuel : Nat) → (seen : Array Command) → (opened : List Nat) → Parser (Array Command)
  | 0, seen, _ => return seen
  | fuel + 1, seen, opened => do
    let _ ← span fun c => Bytes.isSpace c || c == ';'
    if (← peek).isNone then
      if opened.isEmpty then return seen else failAtAll (bytesOf "unmatched \x60\x7b'")
    let selector ← selector extended
    match ← next with
    | none => fail "missing command"
    | some '#' =>
      if selector.first.isSome then fail "comments don't accept any addresses"
      let _ ← span (· != '\n')
      commands extended fuel seen opened
    | some ':' =>
      if selector.first.isSome then fail ": doesn't want any addresses"
      let name ← labelName
      if name.isEmpty then fail "\":\" lacks a label"
      commands extended fuel (seen.push ⟨selector, .label name⟩) opened
    | some '\x7b' => commands extended fuel (seen.push ⟨selector, .block 0⟩) (seen.size :: opened)
    | some '\x7d' =>
      match opened with
      | [] => fail "unexpected \x60\x7d'"
      | start :: opened =>
        if selector.first.isSome then fail "\x7d doesn't want any addresses"
        commandEnd
        let seen := seen.push ⟨selector, .blockEnd⟩
        commands extended fuel (seen.modify start fun c => { c with action := .block seen.size }) opened
    | some c =>
      if c == '\n' then fail "missing command"
      let action ← action extended c
      commands extended fuel (seen.push ⟨selector, action⟩) opened

end Parser

/-- Reads a script. -/
def parse (extended : Bool) (script : Bytes) : Except Flaw (Array Command) :=
  ((Parser.commands extended (script.length + 1) #[] []).run (script, script.length)).1

end Frontier.Tool.Sed
