import Frontier.Tool.Basic

/-!
# Tools that pass on what they read
-/

namespace Frontier.Tool

namespace Cat

/-- A byte as it is shown when everything is to be visible. -/
def visible (tabs : Bool) (c : Char) : Bytes :=
  let low (c : Char) : Bytes :=
    if c.toNat < 32 then ['^', Char.ofNat (c.toNat + 64)] else if c.toNat == 127 then ['^', '?'] else [c]
  if c == '\n' || c == '\t' && !tabs then [c]
  else if c.toNat < 128 then low c
  else bytesOf "M-" ++ low (Char.ofNat (c.toNat - 128))

/-- How lines are shown. -/
structure Style where
  numbers : Bool
  numbersFilled : Bool
  squeezes : Bool
  ends : Bool
  tabs : Bool
  nonPrinting : Bool
  deriving Repr, Inhabited

/-- Where the output is: the number of the last line, whether a line begins, and how many empty lines came before. -/
structure Place where
  line : Nat := 0
  atStart : Bool := true
  blanks : Nat := 0
  deriving Repr, Inhabited

/-- The next byte. -/
def put (style : Style) (p : Place) (c : Char) : Bytes × Place :=
  let isBlank := p.atStart && c == '\n'
  if isBlank && style.squeezes && 1 ≤ p.blanks then ([], p)
  else
    let counts := p.atStart && (style.numbersFilled && !isBlank || style.numbers && !style.numbersFilled)
    let line := if counts then p.line + 1 else p.line
    let digits := Bytes.ofNat line
    let head := if counts then List.replicate (6 - digits.length) ' ' ++ digits ++ ['\t'] else []
    let shown := if c == '\n' then (if style.ends then ['$', '\n'] else ['\n'])
      else if c == '\t' && style.tabs then ['^', 'I']
      else if style.nonPrinting then visible style.tabs c
      else [c]
    (head ++ shown, { line, atStart := c == '\n', blanks := if isBlank then p.blanks + 1 else 0 })

/-- Shows a block of bytes. -/
def show? (style : Style) (p : Place) (bytes : Bytes) : Bytes × Place :=
  let (parts, p) := bytes.foldl (fun (parts, p) c =>
    let (shown, p) := put style p c
    (shown :: parts, p)) (([] : List Bytes), p)
  (parts.reverse.flatten, p)

end Cat

/-- Prints files, one after the other. -/
def cat (i : Invocation) : Plan Nat := do
  let forms : List OptionForm := switches "AbeEnstTuv" ++
    [{ letter := 'n', long := "number" }, { letter := 'A', long := "show-all" }, { letter := 's', long := "squeeze-blank" },
      { letter := 'E', long := "show-ends" }, { letter := 'T', long := "show-tabs" }, { letter := 'b', long := "number-nonblank" },
      { letter := 'v', long := "show-nonprinting" }]
  let (given, files) ← i.options forms 1 true
  let any (letters : String) : Bool := letters.toList.any (has given)
  let style : Cat.Style := {
    numbers := any "n", numbersFilled := any "b", squeezes := any "s", ends := any "AeE", tabs := any "AtT"
    nonPrinting := any "AetTv" && any "Aetv" }
  let isPlain := !any "AbeEnstTv"
  let (_, status) ← i.overFiles files ({} : Cat.Place) fun place file d =>
    Plan.loop place fun place => do
      match ← Plan.ask (.read d 131072) with
      | .error e =>
        i.complainOf file e
        return .inr (place, 1)
      | .ok [] => return .inr (place, 0)
      | .ok bytes =>
        let (shown, place) := if isPlain then (bytes, place) else Cat.show? style place bytes
        i.print shown
        return .inl place
  return status

/-- Copies its input to files and to its output. -/
def tee (i : Invocation) : Plan Nat := do
  let forms : List OptionForm := [{ letter := 'a', long := "append" }, { letter := 'i', long := "ignore-interrupts" }, { letter := 'p' }]
  let (given, files) ← i.options forms 1 true
  if has given 'i' then Plan.ask (.provide Signal.interrupt .ignored)
  let access : Access := { writes := true, creates := true, appends := has given 'a', truncates := !has given 'a' }
  let mut status := 0
  let mut outputs : List (Bytes × Nat) := [(bytesOf "standard output", 1)]
  for file in files do
    match ← Plan.ask (.openFile file access) with
    | .ok d => outputs := outputs ++ [(file, d)]
    | .error e =>
      i.complainOf file e
      status := 1
  Plan.loop (outputs, status) fun (outputs, status) => do
    match ← Plan.ask (.read 0 8192) with
    | .error e =>
      i.complain (bytesOf "read error: " ++ e.message)
      return .inr 1
    | .ok [] => return .inr status
    | .ok bytes =>
      let mut kept := []
      let mut status := status
      for (file, d) in outputs do
        match ← writeAll d bytes with
        | .ok () => kept := kept ++ [(file, d)]
        | .error e =>
          i.complainOf file e
          status := 1
      if kept.isEmpty then return .inr status else return .inl (kept, status)

/-- A count that an option gives, with a letter for a multiple. -/
def countOf? (text : Bytes) : Option Nat :=
  let digits := text.takeWhile Char.isDigit
  if digits.isEmpty then none
  else
    let multiple := match text.drop digits.length with
      | [] => some 1
      | ['b'] => some 512
      | ['k'] | ['K'] => some 1024
      | ['m'] | ['M'] => some (1024 * 1024)
      | _ => none
    multiple.map (· * Bytes.toNat digits)

/-- Turns a count that is given as an option, `-5`, into one that a letter gives. -/
def letterCount (sign : Char) (args : List Bytes) : List Bytes :=
  match args with
  | (s :: digits) :: rest =>
    if s == sign && digits.head?.any Char.isDigit then
      let n := digits.takeWhile Char.isDigit
      let more := digits.drop n.length
      let shown := if sign == '+' then '+' :: n else n
      (['-', if more.contains 'c' then 'c' else 'n'] ++ shown) :: rest
    else args
  | _ => args

/-- Prints the name of a file over what it holds, if there are several. -/
def heading (i : Invocation) (shows isFirst : Bool) (file : Bytes) : Plan Unit := do
  if shows then
    let name := if file == ['-'] then bytesOf "standard input" else file
    i.print ((if isFirst then [] else ['\n']) ++ bytesOf "==> " ++ name ++ bytesOf " <==\n")

/-- Opens a file that is given to `head` or `tail`. -/
def openListed (i : Invocation) (file : Bytes) : Plan (Option Nat) := do
  match ← openInput file with
  | .ok d => return some d
  | .error e =>
    i.complain (bytesOf "cannot open " ++ quotedName file ++ bytesOf " for reading: " ++ e.message)
    return none

/-- A read that has failed. -/
def readFailed (i : Invocation) (file : Bytes) (e : Errno) : Plan Nat := do
  i.complain (bytesOf "error reading " ++ quotedName (if file == ['-'] then bytesOf "standard input" else file) ++
    bytesOf ": " ++ e.message)
  return 1

/-- The place after so many lines. -/
def afterLines : Nat → Bytes → Bytes
  | 0, text => text
  | n + 1, text => afterLines n ((text.dropWhile (· != '\n')).drop 1)

/-- Prints the first lines or bytes of files. -/
def head (i : Invocation) : Plan Nat := do
  let forms : List OptionForm :=
    [{ letter := 'n', takes := .value, long := "lines" }, { letter := 'c', takes := .value, long := "bytes" },
      { letter := 'q', long := "quiet" }, { letter := 'v', long := "verbose" }, { letter := 'z', long := "zero-terminated" }]
  let (given, files) ← ({ i with args := letterCount '-' i.args } : Invocation).options forms 1 true
  let last := (given.filter fun p => p.1 == 'n' || p.1 == 'c').getLast?
  let byBytes := last.any (·.1 == 'c')
  let text := (last.bind (·.2)).getD (bytesOf "10")
  let (fromEnd, digits) := match text with
    | '-' :: rest => (true, rest)
    | '+' :: rest => (false, rest)
    | rest => (false, rest)
  let count ← match countOf? digits with
    | some n => pure n
    | none => do
      i.complain (bytesOf "invalid number of " ++ bytesOf (if byBytes then "bytes" else "lines") ++ bytesOf ": " ++ quotedName text)
      Plan.exit 1
  let shows := has given 'v' || 1 < files.length && !has given 'q'
  let mut status := 0
  let mut isFirst := true
  for file in (if files.isEmpty then [['-']] else files) do
    match ← openListed i file with
    | none => status := 1
    | some d =>
      heading i shows isFirst file
      isFirst := false
      let result ← if fromEnd then do
          match ← readAll d with
          | .error e => readFailed i file e
          | .ok all =>
            if byBytes then i.print (all.take (all.length - count))
            else
              let lines := (Bytes.lines '\n' all).length
              i.print (all.take (all.length - (afterLines (lines - count) all).length))
            pure 0
        else Plan.loop count fun left => do
          if left == 0 then return .inr 0
          match ← Plan.ask (.read d 8192) with
          | .error e => return .inr (← readFailed i file e)
          | .ok [] => return .inr 0
          | .ok bytes =>
            let kept := if byBytes then bytes.take left else bytes.take (bytes.length - (afterLines left bytes).length)
            i.print kept
            return .inl (left - if byBytes then kept.length else kept.countP (· == '\n'))
      status := max status result
      closeInput d
  return status

/-- The last lines of a text. -/
def lastLines (count : Nat) (text : Bytes) : Bytes :=
  let lines := (Bytes.lines '\n' text).length
  afterLines (lines - count) text

/-- Prints the last lines or bytes of files. -/
def tail (i : Invocation) : Plan Nat := do
  let forms : List OptionForm :=
    [{ letter := 'n', takes := .value, long := "lines" }, { letter := 'c', takes := .value, long := "bytes" },
      { letter := 'q', long := "quiet" }, { letter := 'v', long := "verbose" }, { letter := 'f', long := "follow" }, { letter := 'F' },
      { letter := 's', takes := .value }]
  let args := letterCount '-' (letterCount '+' i.args)
  let (given, files) ← ({ i with args } : Invocation).options forms 1 true
  let last := (given.filter fun p => p.1 == 'n' || p.1 == 'c').getLast?
  let byBytes := last.any (·.1 == 'c')
  let text := (last.bind (·.2)).getD (bytesOf "10")
  let (fromStart, digits) := match text with
    | '+' :: rest => (true, rest)
    | '-' :: rest => (false, rest)
    | rest => (false, rest)
  let count ← match countOf? digits with
    | some n => pure n
    | none => do
      i.complain (bytesOf "invalid number of " ++ bytesOf (if byBytes then "bytes" else "lines") ++ bytesOf ": " ++ quotedName text)
      Plan.exit 1
  let shows := has given 'v' || 1 < files.length && !has given 'q'
  let mut status := 0
  let mut isFirst := true
  let mut open_ : List Nat := []
  for file in (if files.isEmpty then [['-']] else files) do
    match ← openListed i file with
    | none => status := 1
    | some d =>
      heading i shows isFirst file
      isFirst := false
      let result ← if fromStart then Plan.loop (count - 1) fun left => do
          match ← Plan.ask (.read d 8192) with
          | .error e => return .inr (← readFailed i file e)
          | .ok [] => return .inr 0
          | .ok bytes =>
            let dropped := if byBytes then bytes.take left else bytes.take (bytes.length - (afterLines left bytes).length)
            i.print (bytes.drop dropped.length)
            return .inl (left - if byBytes then dropped.length else dropped.countP (· == '\n'))
        else do
          match ← readAll d with
          | .error e => readFailed i file e
          | .ok all =>
            i.print (if byBytes then all.drop (all.length - count) else lastLines count all)
            pure 0
      status := max status result
      if has given 'f' || has given 'F' then open_ := open_ ++ [d] else closeInput d
  if !open_.isEmpty && !files.isEmpty then
    Plan.loop () fun _ => do
      Plan.ask (.rest 1000000)
      for d in open_ do
        match ← Plan.ask (.read d 8192) with
        | .ok (c :: rest) => i.print (c :: rest)
        | _ => pure ()
      return .inl ()
  return status

/-- Prints each line from its end to its beginning. -/
def rev (i : Invocation) : Plan Nat := do
  let (_, files) ← i.options [] 1 true
  let (p, status) ← i.overFiles files ({} : Printer) fun p file d =>
    i.overLines file '\n' { descriptor := d } p (fun p line whole _ => do
      return .inl (← p.put i (line.reverse ++ if whole then ['\n'] else []))) fun p fine =>
        return (p, if fine then 0 else 1)
  let _ ← p.flush i
  return status

/-- The pieces of a text, each with its separator at the end. -/
def pieces (text : Bytes) : List Bytes :=
  let parts := Bytes.split '\n' text
  (parts.dropLast.map (· ++ ['\n'])) ++ (parts.getLast?.filter fun last => !last.isEmpty).toList

/-- Prints lines, the last one first. -/
def tac (i : Invocation) : Plan Nat := do
  let (_, files) ← i.options [] 1 true
  let (_, status) ← i.overFiles files () fun _ file d => do
    match ← readAll d with
    | .error e =>
      i.complainOf file e
      return ((), 1)
    | .ok all =>
      i.print (pieces all).reverse.flatten
      return ((), 0)
  return status

end Frontier.Tool
