import Frontier.Tool.Basic
import Frontier.Tool.Sed.Script

/-!
# Editing lines

Each line of the input is held in the pattern space while the commands of the script are run on it. Then it is printed,
unless that is not wanted, and the next line is read.
-/

namespace Frontier.Tool
namespace Sed

/-- What is to be printed at the end of a cycle. -/
inductive Appended where
  | text (text : Bytes)
  | file (name : Bytes)
  deriving Repr, Inhabited

/-- Where a range of lines stands. -/
inductive RangeState where
  /-- It ends at a line. -/
  | untilLine (n : Nat)
  /-- It ends at the next line that its end fits. -/
  | untilEnd
  /-- It is over, if it has begun. -/
  | closed
  deriving DecidableEq, Repr, Inhabited

/-- Output, and whether the newline of its last line is missing. -/
structure Sink where
  descriptor : Nat
  held : List Bytes := []
  size : Nat := 0
  lacksNewline : Bool := false
  deriving Repr, Inhabited

/-- How far the input was edited. -/
structure State where
  script : Array Command
  quiet : Bool
  unbuffered : Bool
  separator : Char
  files : List Bytes
  reader : Option Reader := none
  fileName : Bytes := ['-']
  line : Nat := 0
  pattern : Bytes := []
  /-- Whether the line in the pattern space had its newline. -/
  whole : Bool := true
  hold : Bytes := []
  appended : List Appended := []
  /-- Whether something was substituted since the last line was read, or the last jump. -/
  substituted : Bool := false
  ranges : List (Nat × RangeState) := []
  /-- The expression that was used last. -/
  lastRegex : Option Regex := none
  output : Sink := { descriptor := 1 }
  /-- The files that are written to. -/
  sinks : List (Bytes × Sink) := []
  /-- The files from which single lines are read. -/
  sources : List (Bytes × Reader) := []
  status : Nat := 0
  deriving Inhabited

/-! ## Output -/

/-- How much is held back. -/
def blockLimit : Nat := 4096

/-- Writes what is held back. -/
def Sink.flush (i : Invocation) (s : Sink) : Plan Sink := do
  match ← writeAll s.descriptor s.held.reverse.flatten with
  | .ok () => return { s with held := [], size := 0 }
  | .error e =>
    i.complain (bytesOf "couldn't flush stdout: " ++ e.message)
    Plan.exit 4

/-- Prints bytes after the newline that is missing. -/
def Sink.put (i : Invocation) (now : Bool) (s : Sink) (bytes : Bytes) (endsWhole : Bool) : Plan Sink := do
  let bytes := if s.lacksNewline then '\n' :: bytes else bytes
  let s := { s with held := bytes :: s.held, size := s.size + bytes.length, lacksNewline := !endsWhole }
  if now || blockLimit ≤ s.size then s.flush i else return s

/-- Prints text. -/
def printText (i : Invocation) (text : Bytes) (s : State) : Plan State := do
  return { s with output := ← s.output.put i s.unbuffered text true }

/-- Prints a line. -/
def printLine (i : Invocation) (line : Bytes) (s : State) : Plan State := do
  return { s with output := ← s.output.put i s.unbuffered (if s.whole then line ++ [s.separator] else line) s.whole }

/-- Prints a line to a file. -/
def writeLine (i : Invocation) (name line : Bytes) (s : State) : Plan State := do
  if name == bytesOf "/dev/stdout" then printLine i line s
  else match s.sinks.lookup name with
    | none => return s
    | some sink =>
      let sink ← sink.put i true (if s.whole then line ++ ['\n'] else line) s.whole
      return { s with sinks := s.sinks.map fun p => if p.1 == name then (name, sink) else p }

/-- Prints what was appended in this cycle. -/
def printAppended (i : Invocation) (s : State) : Plan State := do
  let s' ← s.appended.foldlM (fun s a => do
    match a with
    | .text text => printText i text s
    | .file name =>
      match ← openInput (if name == bytesOf "/dev/stdin" then ['-'] else name) with
      | .error _ => return s
      | .ok d =>
        let content ← readAll d
        closeInput d
        match content with
        | .ok (c :: rest) => printText i (c :: rest) s
        | _ => return s) s
  return { s' with appended := [] }

/-! ## Input -/

/-- Makes sure that there is something to be read, if there is more input at all; a file that cannot be read is
passed. -/
def fill (i : Invocation) (s : State) : Plan (State × Bool) :=
  Plan.loop s fun s => do
    match s.reader with
    | some r =>
      if !r.held.isEmpty then return .inr (s, true)
      match ← if r.ended then pure (.ok []) else Plan.ask (.read r.descriptor r.block) with
      | .ok [] =>
        closeInput r.descriptor
        return .inl { s with reader := none }
      | .ok bytes => return .inl { s with reader := some { r with held := bytes } }
      | .error e =>
        i.complain (bytesOf "read error on " ++ s.fileName ++ bytesOf ": " ++ e.message)
        Plan.exit 4
    | none =>
      match s.files with
      | [] => return .inr (s, false)
      | file :: files =>
        let s := { s with files, fileName := file }
        match ← openInput file with
        | .ok d => return .inl { s with reader := some { descriptor := d, block := if s.unbuffered then 1 else 4096 } }
        | .error e =>
          i.complain (bytesOf "can't read " ++ file ++ bytesOf ": " ++ e.message)
          return .inl { s with status := 2 }

/-- The next line of the input; none at its end. -/
def nextLine (i : Invocation) (s : State) : Plan (State × Option Bytes) := do
  let (s, more) ← fill i s
  match more, s.reader with
  | true, some r =>
    match ← r.line s.separator with
    | (.ok (some (line, whole)), r) =>
      return ({ s with reader := some r, line := s.line + 1, whole }, some line)
    | (_, r) => return ({ s with reader := some r }, none)
  | _, _ => return (s, none)

/-! ## Addresses -/

/-- The expression of a pattern. -/
def regexOf (i : Invocation) (p : Pattern) (s : State) : Plan (Regex × State) := do
  match p.regex.or s.lastRegex with
  | some r => return (r, { s with lastRegex := some r })
  | none =>
    i.complain (bytesOf "-e expression #1, char 0: no previous regular expression")
    Plan.exit 1

/-- How the expression of a pattern compares. -/
def Pattern.manner (p : Pattern) : Regex.Manner := { ignoresCase := p.ignoresCase, byLines := p.byLines }

/-- Whether an address fits the line. -/
def fits (i : Invocation) (a : Address) (s : State) : Plan (Bool × State) := do
  match a with
  | .line n => return (s.line == n, s)
  | .step first size => return (if size == 0 then s.line == first else first ≤ s.line && (s.line - first) % size == 0, s)
  | .last =>
    let (s, more) ← fill i s
    return (!more, s)
  | .pattern p =>
    let (r, s) ← regexOf i p s
    return ((r.find? p.manner s.pattern 0 false).isSome, s)

/-- The state of the range of a command. -/
def setRange (place : Nat) (r : RangeState) (s : State) : State :=
  { s with ranges := (place, r) :: s.ranges.filter (·.1 != place) }

/-- Whether the range of a command goes on with this line. -/
def goesOn (i : Invocation) (place : Nat) (state : RangeState) (last : RangeEnd) (s : State) : Plan (Option Bool × State) := do
  match state, last with
  | .closed, _ => return (none, s)
  | .untilLine n, _ =>
    if s.line < n then return (some true, s)
    let s := setRange place .closed s
    return (if s.line == n then some true else none, s)
  | .untilEnd, .address a =>
    let (isEnd, s) ← fits i a s
    return (some true, if isEnd then setRange place .closed s else s)
  | .untilEnd, _ => return (none, s)

/-- Whether a range begins with this line; its end is noted. -/
def beginsRange (i : Invocation) (place : Nat) (first : Address) (last : RangeEnd) (s : State) : Plan (Bool × State) := do
  let (isFirst, s) ← fits i first s
  if !isFirst then return (false, s)
  let stop (n : Nat) : State := if s.line < n then setRange place (.untilLine n) s else setRange place .closed s
  match last with
  | .address (.line n) => return (true, stop n)
  | .plus n => return (true, stop (s.line + n))
  | .multiple n => return (true, stop (if n == 0 then s.line else (s.line + n - 1) / n * n))
  | .address _ => return (true, setRange place .untilEnd s)

/-- Whether a command applies to the line. -/
def selects (i : Invocation) (place : Nat) (sel : Selector) (s : State) : Plan (Bool × State) := do
  let (hit, s) ← match sel.first, sel.last with
    | none, _ => pure (true, s)
    | some a, none => fits i a s
    | some a, some last => do
      let isZero := match a with
        | .line 0 => true
        | _ => false
      let state := (s.ranges.lookup place).getD (if isZero then .untilEnd else .closed)
      match ← goesOn i place state last s with
      | (some hit, s) => pure (hit, s)
      | (none, s) =>
        match a with
        | .line n =>
          if s.line == n then beginsRange i place a last s else pure (false, s)
        | a => beginsRange i place a last s
  return (hit != sel.negated, s)

/-! ## Substitutions -/

/-- Text that is put together, with letters changed on the way. -/
structure Building where
  /-- Latest first. -/
  text : List Bytes := []
  casing : Casing := .plain
  once : Option Casing := none
  deriving Inhabited

/-- Adds text to a replacement. -/
def Building.add (b : Building) (text : Bytes) : Building :=
  let changed := match b.casing with
    | .upper => text.map Char.toUpper
    | .lower => text.map Char.toLower
    | _ => text
  match b.once, changed with
  | some c, first :: rest =>
    let first := if c == .upperNext then first.toUpper else first.toLower
    { b with text := (first :: rest) :: b.text, once := none }
  | _, changed => { b with text := changed :: b.text }

/-- What a replacement stands for. -/
def replacementOf (line : Array Char) (found : Regex.Found) (replacement : List Part) : Bytes :=
  let part (first last : Nat) : Bytes := (line.extract first last).toList
  let b := replacement.foldl (fun (b : Building) p => match p with
    | .text c => b.add [c]
    | .group 0 => b.add (part found.first found.last)
    | .group n => match found.groups.lookup n with
      | some (first, last) => b.add (part first last)
      | none => b
    | .casing c =>
      if c == .upperNext || c == .lowerNext then { b with once := some c } else { b with casing := c, once := none }) {}
  b.text.reverse.flatten

/-- Replaces matches in a line from a place on: the new rest of the line, and whether something was replaced. Every step
of `fuel` passes a match. -/
def replaceFrom (r : Regex) (m : Regex.Manner) (sub : Substitution) (line : Bytes) (chars : Array Char) :
    (fuel : Nat) → (place count : Nat) → (lastEnd : Option Nat) → Bytes × Bool
  | 0, place, _, _ => (line.drop place, false)
  | fuel + 1, place, count, lastEnd =>
    match r.find? m line place (sub.replacement.any fun p => match p with
        | .group n => 0 < n
        | _ => false) with
    | none => (line.drop place, false)
    | some found =>
      let before := (line.drop place).take (found.first - place)
      let isEmpty := found.first == found.last
      if isEmpty && lastEnd == some found.first then
        match (line)[found.first]? with
        | none => (line.drop place, false)
        | some c =>
          let (rest, replaced) := replaceFrom r m sub line chars fuel (found.first + 1) count none
          (before ++ c :: rest, replaced)
      else
        let count := count + 1
        let replaces := sub.number ≤ count
        let shown := if replaces then replacementOf chars found sub.replacement
          else (line.drop found.first).take (found.last - found.first)
        if replaces && !sub.global then (before ++ shown ++ line.drop found.last, true)
        else if isEmpty then
          match (line)[found.first]? with
          | none => (before ++ shown, replaces)
          | some c =>
            let (rest, replaced) := replaceFrom r m sub line chars fuel (found.first + 1) count none
            (before ++ shown ++ c :: rest, replaces || replaced)
        else
          let (rest, replaced) := replaceFrom r m sub line chars fuel found.last count (some found.last)
          (before ++ shown ++ rest, replaces || replaced)

/-! ## Commands -/

/-- A line as `l` shows it, cut into parts. -/
def unambiguous (width : Nat) (line : Bytes) : Bytes :=
  let shown (c : Char) : Bytes := match c with
    | '\\' => bytesOf "\\\\"
    | '\x07' => bytesOf "\\a"
    | '\x08' => bytesOf "\\b"
    | '\x0c' => bytesOf "\\f"
    | '\n' => bytesOf "\\n"
    | '\r' => bytesOf "\\r"
    | '\t' => bytesOf "\\t"
    | '\x0b' => bytesOf "\\v"
    | c => if ' ' ≤ c && c ≤ '~' then [c] else '\\' :: Bytes.padded 8 3 c.toNat
  let (parts, _) := line.foldl (fun (parts, used) c =>
    let text := shown c
    if 1 < width && width - 1 < used + text.length then (text :: bytesOf "\\\n" :: parts, text.length)
    else (text :: parts, used + text.length)) (([] : List Bytes), 0)
  parts.reverse.flatten ++ ['$', '\n']

/-- What comes after a command. -/
inductive Onward where
  /-- The command at a place. -/
  | command (place : Nat)
  /-- The end of the cycle; the pattern space may be printed. -/
  | cycleEnd (prints : Bool)
  /-- A new cycle with what is left in the pattern space. -/
  | again
  | quit (prints : Bool) (status : Nat)
  deriving Repr, Inhabited

/-- The place of a label; without a name, the end of the script. -/
def labelPlace (script : Array Command) (name : Bytes) : Nat :=
  if name.isEmpty then script.size
  else (script.findIdx? fun c => match c.action with
    | .label other => other == name
    | _ => false).getD script.size

/-- Runs the command at a place on the pattern space. -/
def perform (i : Invocation) (place : Nat) (c : Command) (s : State) : Plan (State × Onward) := do
  let onward (s : State) : Plan (State × Onward) := return (s, .command (place + 1))
  match c.action with
  | .block _ | .blockEnd | .label _ | .nothing => onward s
  | .jump name => return (s, .command (labelPlace s.script name))
  | .jumpIf name =>
    if s.substituted then return ({ s with substituted := false }, .command (labelPlace s.script name)) else onward s
  | .jumpUnless name =>
    if s.substituted then onward { s with substituted := false } else return (s, .command (labelPlace s.script name))
  | .append text => onward { s with appended := s.appended ++ [.text text] }
  | .insert text => onward (← printText i text s)
  | .change text =>
    let isLast := c.selector.last.isNone || c.selector.negated || (s.ranges.lookup place).all (· == .closed)
    let s ← if isLast then printText i text s else pure s
    return (s, .cycleEnd false)
  | .delete => return (s, .cycleEnd false)
  | .deleteFirst =>
    if s.pattern.contains '\n' then
      return ({ s with pattern := (s.pattern.dropWhile (· != '\n')).drop 1 }, .again)
    else return (s, .cycleEnd false)
  | .number => onward (← printText i (Bytes.ofNat s.line ++ ['\n']) s)
  | .fileName => onward (← printText i (s.fileName ++ ['\n']) s)
  | .holdCopy => onward { s with hold := s.pattern }
  | .holdAppend => onward { s with hold := s.hold ++ s.separator :: s.pattern }
  | .fetchCopy => onward { s with pattern := s.hold }
  | .fetchAppend => onward { s with pattern := s.pattern ++ s.separator :: s.hold }
  | .exchange => onward { s with pattern := s.hold, hold := s.pattern }
  | .show width => onward (← printText i (unambiguous (width.getD 70) s.pattern) s)
  | .next =>
    let (s, more) ← fill i s
    if !more then return (s, .quit true s.status)
    let s ← if s.quiet then pure s else printLine i s.pattern s
    let s ← printAppended i s
    match ← nextLine i s with
    | (s, some line) => onward { s with pattern := line }
    | (s, none) => return (s, .quit false s.status)
  | .nextAppend =>
    let (s, more) ← fill i s
    if !more then return (s, .quit true s.status)
    let s ← printAppended i s
    match ← nextLine i s with
    | (s, some line) => onward { s with pattern := s.pattern ++ s.separator :: line }
    | (s, none) => return (s, .quit true s.status)
  | .print => onward (← printLine i s.pattern s)
  | .printFirst => onward (← printText i (s.pattern.takeWhile (· != '\n') ++ ['\n']) s)
  | .quit status => return (s, .quit true status)
  | .quitSilently status => return (s, .quit false status)
  | .readFile name => onward { s with appended := s.appended ++ [.file name] }
  | .readLine name =>
    let reader ← match s.sources.lookup name with
      | some r => pure (some r)
      | none => do
        match ← openInput name with
        | .ok d => pure (some ({ descriptor := d } : Reader))
        | .error _ => pure none
    match reader with
    | none => onward s
    | some r =>
      match ← r.line '\n' with
      | (.ok (some (line, _)), r) => onward { s with
          sources := (name, r) :: s.sources.filter (·.1 != name), appended := s.appended ++ [.text (line ++ ['\n'])] }
      | (_, r) => onward { s with sources := (name, r) :: s.sources.filter (·.1 != name) }
  | .substitute sub =>
    let (r, s) ← regexOf i sub.pattern s
    let (line, replaced) := replaceFrom r sub.pattern.manner sub s.pattern s.pattern.toArray (s.pattern.length + 2) 0 0 none
    if !replaced then onward s
    else
      let s := { s with pattern := line, substituted := true }
      let s ← if sub.prints then printLine i line s else pure s
      match sub.file with
      | some name => onward (← writeLine i name line s)
      | none => onward s
  | .write name => onward (← writeLine i name s.pattern s)
  | .writeFirst name => onward (← writeLine i name (s.pattern.takeWhile (· != '\n')) s)
  | .translate table => onward { s with pattern := s.pattern.map fun c => (table.lookup c).getD c }
  | .clear => onward { s with pattern := [] }

/-- Runs the script on the pattern space. -/
def runCycle (i : Invocation) (s : State) : Plan (State × Onward) :=
  Plan.loop (s, 0) fun (s, place) => do
    match s.script[place]? with
    | none => return .inr (s, .cycleEnd true)
    | some c =>
      let (applies, s) ← selects i place c.selector s
      if !applies then
        match c.action with
        | .block after => return .inl (s, after)
        | _ => return .inl (s, place + 1)
      else match ← perform i place c s with
        | (s, .command place) => return .inl (s, place)
        | (s, onward) => return .inr (s, onward)

/-- Edits all lines, and gives the status. -/
def runAll (i : Invocation) (s : State) : Plan Nat :=
  let finish (s : State) (prints : Bool) (status : Nat) : Plan Nat := do
    let s ← if prints && !s.quiet then printLine i s.pattern s else pure s
    let s ← printAppended i s
    let _ ← s.output.flush i
    return status
  Plan.loop (s, true) fun (s, reads) => do
    let (s, goesOn) ← if !reads then pure (s, true) else do
      match ← nextLine i s with
      | (s, some line) => pure ({ s with pattern := line, substituted := false }, true)
      | (s, none) => pure (s, false)
    if !goesOn then
      let _ ← s.output.flush i
      return .inr s.status
    match ← runCycle i s with
    | (s, .cycleEnd prints) =>
      let s ← if prints && !s.quiet then printLine i s.pattern s else pure s
      return .inl (← printAppended i s, true)
    | (s, .again) => return .inl (← printAppended i s, false)
    | (s, .quit prints status) => return .inr (← finish s prints status)
    | (s, .command _) => return .inl (s, true)

/-- The files that a script writes to. -/
def outputsOf (script : Array Command) : List Bytes :=
  (script.toList.filterMap fun c => match c.action with
    | .write name | .writeFirst name => some name
    | .substitute sub => sub.file
    | _ => none).eraseDups

/-- Tells how the editor is called. -/
def misuse {α : Type} (i : Invocation) : Plan α := do
  say (bytesOf "Usage: " ++ i.name ++ bytesOf " [OPTION]... \x7bscript-only-if-no-other-script\x7d [input-file]...")
  Plan.exit 1

/-- Options. -/
def forms : List OptionForm := switches "nrEsuz" ++
  [{ letter := 'n', long := "quiet" }, { letter := 'n', long := "silent" }, { letter := 'E', long := "regexp-extended" },
    { letter := 'u', long := "unbuffered" }, { letter := 'z', long := "null-data" }, { letter := 's', long := "separate" },
    { letter := 'e', takes := .value, long := "expression" }, { letter := 'f', takes := .value, long := "file" },
    { letter := 'l', takes := .value, long := "line-length" }, { letter := '\x01', long := "posix" }]

end Sed

/-- Edits the lines of files by a script. -/
def sed (i : Invocation) : Plan Nat := do
  let (given, args) ← match Tool.options Sed.forms true i.args with
    | .ok parsed => pure parsed
    | .error e => do
      i.complain e
      Sed.misuse i
  let mut parts : List Bytes := []
  for (c, value) in given do
    if c == 'e' then parts := parts ++ [value.getD []]
    if c == 'f' then
      let name := value.getD []
      match ← openInput name with
      | .error e =>
        i.complain (bytesOf "couldn't open file " ++ name ++ bytesOf ": " ++ e.message)
        Plan.exit 4
      | .ok d =>
        match ← readAll d with
        | .ok all => parts := parts ++ [if all.getLast? == some '\n' then all.dropLast else all]
        | .error _ => pure ()
  let isNamed := has given 'e' || has given 'f'
  if !isNamed && args.isEmpty then
    Sed.misuse i
  let script := if isNamed then Bytes.join ['\n'] parts else args.headD []
  let files := if isNamed then args else args.tail
  let (quiet, script) := if script.take 3 == bytesOf "#n\n" || script == bytesOf "#n" then (true, script.drop 2)
    else (has given 'n', script)
  match Sed.parse (has given 'E' || has given 'r') script with
  | .error { message, place := some place } =>
    i.complain (bytesOf "-e expression #1, char " ++ Bytes.ofNat place ++ bytesOf ": " ++ message)
    return 1
  | .error { message, place := none } =>
    i.complain message
    return 4
  | .ok commands =>
    let missing := commands.toList.findSome? fun c => match c.action with
      | .jump name | .jumpIf name | .jumpUnless name =>
        if !name.isEmpty && Sed.labelPlace commands name == commands.size then some name else none
      | _ => none
    if let some name := missing then
      i.complain (bytesOf "can't find label for jump to \x60" ++ name ++ ['\''])
      Plan.exit 4
    let mut sinks : List (Bytes × Sed.Sink) := []
    for name in Sed.outputsOf commands do
      if name == bytesOf "/dev/stderr" then sinks := (name, { descriptor := 2 }) :: sinks
      else if name != bytesOf "/dev/stdout" then
        match ← Plan.ask (.openFile name { writes := true, creates := true, truncates := true }) with
        | .ok d => sinks := (name, { descriptor := d }) :: sinks
        | .error e =>
          i.complain (bytesOf "couldn't open file " ++ name ++ bytesOf ": " ++ e.message)
          Plan.exit 4
    Sed.runAll i {
      script := commands, quiet, unbuffered := has given 'u', separator := if has given 'z' then '\x00' else '\n'
      files := if files.isEmpty then [['-']] else files, sinks }

end Frontier.Tool
