import Frontier.Tool.Basic
import Frontier.Tool.Decimal

/-!
# Tools that need no input
-/

namespace Frontier.Tool

def alwaysTrue (_ : Invocation) : Plan Nat := pure 0

def alwaysFalse (_ : Invocation) : Plan Nat := pure 1

namespace Echo

/-- The character that a letter stands for after a backslash. -/
def letter? : Char → Option Char
  | 'a' => some '\x07'
  | 'b' => some '\x08'
  | 'e' => some '\x1b'
  | 'f' => some '\x0c'
  | 'n' => some '\n'
  | 'r' => some '\r'
  | 't' => some '\t'
  | 'v' => some '\x0b'
  | '\\' => some '\\'
  | _ => none

/-- Reads what follows a backslash: a letter, or the number of a character. A zero may stand before three octal digits
if `zeros`. -/
def escape? (zeros : Bool) : Bytes → Option (Char × Bytes)
  | [] => none
  | c :: rest =>
    let number (base most : Nat) (text : Bytes) : Option (Char × Bytes) :=
      let digits := (text.take most).takeWhile fun d => Bytes.digitValue d < base
      if digits.isEmpty then none
      else some (Char.ofNat ((Bytes.readDigits base 0 digits).1 % 256), text.drop digits.length)
    if zeros && c == '0' then some ((number 8 3 rest).getD ('\x00', rest))
    else if c == 'x' then number 16 2 rest
    else if c.isDigit && c < '8' then number 8 3 (c :: rest)
    else (letter? c).map (·, rest)

/-- A text with its backslashes read; the flag tells that it asks to end all output. Every step of `fuel` reads a
character or more. -/
def escaped : (fuel : Nat) → Bytes → Bytes × Bool
  | 0, _ | _ + 1, [] => ([], false)
  | _ + 1, '\\' :: 'c' :: _ => ([], true)
  | fuel + 1, '\\' :: rest =>
    match escape? true rest with
    | some (d, rest) =>
      let (more, stop) := escaped fuel rest
      (d :: more, stop)
    | none =>
      let (more, stop) := escaped fuel rest
      ('\\' :: more, stop)
  | fuel + 1, c :: rest =>
    let (more, stop) := escaped fuel rest
    (c :: more, stop)

/-- Reads options: whether there is a line end, whether backslashes are read, and the other arguments. -/
def options (lineEnd reads : Bool) : List Bytes → Bool × Bool × List Bytes
  | ('-' :: c :: letters) :: rest =>
    if (c :: letters).all fun c => ['n', 'e', 'E'].contains c then
      let reads := (c :: letters).foldl (fun reads c => if c == 'e' then true else if c == 'E' then false else reads) reads
      options (lineEnd && !(c :: letters).contains 'n') reads rest
    else (lineEnd, reads, ('-' :: c :: letters) :: rest)
  | args => (lineEnd, reads, args)

end Echo

/-- Prints its arguments. -/
def echo (i : Invocation) : Plan Nat := do
  let (lineEnd, reads, args) := Echo.options true false i.args
  let text := Bytes.join [' '] args
  let (shown, stop) := if reads then Echo.escaped (text.length + 1) text else (text, false)
  i.print (shown ++ if lineEnd && !stop then ['\n'] else [])
  return 0

/-- Prints its arguments, or one letter, again and again. -/
def yes (i : Invocation) : Plan Nat := do
  let args := if i.args.head? == some ['-', '-'] then i.args.tail else i.args
  let line := (if args.isEmpty then ['y'] else Bytes.join [' '] args) ++ ['\n']
  let block := (List.replicate (max 1 (8192 / line.length)) line).flatten
  Plan.loop () fun _ => do
    i.print block
    return .inl ()

/-- How many ticks a time takes: a number and a letter for the unit. -/
def timeOf? (text : Bytes) : Option Nat :=
  match Quantity.read Quantity.extended text with
  | some (.finite false n d, _, unit) =>
    let seconds := match unit with
      | [] | ['s'] => some 1
      | ['m'] => some 60
      | ['h'] => some 3600
      | ['d'] => some 86400
      | _ => none
    seconds.map fun s => n * s * 1000000 / d
  | some (.infinite false, _, []) => some Plan.endless
  | _ => none

/-- Lets time pass. -/
def sleep (i : Invocation) : Plan Nat := do
  let (_, args) ← i.options [] 1 true
  if args.isEmpty then i.misused (bytesOf "missing operand") 1
  let bad := args.filter fun arg => (timeOf? arg).isNone
  for arg in bad do i.complain (bytesOf "invalid time interval " ++ quotedPlain arg)
  if !bad.isEmpty then
    say (bytesOf "Try '" ++ i.name ++ bytesOf " --help' for more information.")
    return 1
  Plan.ask (.rest ((args.filterMap timeOf?).foldl (· + ·) 0))
  return 0
where
  quotedPlain (text : Bytes) : Bytes := '\'' :: text ++ ['\'']

/-- The directory. -/
def pwd (i : Invocation) : Plan Nat := do
  let _ ← i.options (switches "LP") 1 true
  match ← Plan.ask .directory with
  | .ok path => i.print (path ++ ['\n'])
  | .error e => i.complain e.message
  return 0

/-- The environment, or a program in a changed one. -/
def env (i : Invocation) : Plan Nat := do
  let forms : List OptionForm :=
    [{ letter := 'i', long := "ignore-environment" }, { letter := '0', long := "null" },
      { letter := 'u', takes := .value, long := "unset" }, { letter := 'C', takes := .value, long := "chdir" }]
  let (given, args) ← i.options forms 125 false
  let (given, args) := if args.head? == some ['-'] then (('i', none) :: given, args.tail) else (given, args)
  let assignments := args.takeWhile fun arg => arg.contains '='
  let command := args.drop assignments.length
  let base := if has given 'i' then [] else i.environment
  let kept := base.filter fun (name, _) => !given.any fun (c, value) => c == 'u' && value == some name
  let set (all : List (Bytes × Bytes)) (assignment : Bytes) : List (Bytes × Bytes) :=
    let name := assignment.takeWhile (· != '=')
    let value := assignment.drop (name.length + 1)
    if all.any (·.1 == name) then all.map fun p => if p.1 == name then (name, value) else p
    else all ++ [(name, value)]
  let environment := assignments.foldl set kept
  match value? given 'C' with
  | some dir =>
    match ← Plan.ask (.enter dir) with
    | .ok _ => pure ()
    | .error e =>
      i.complain (bytesOf "cannot change directory to " ++ quotedName dir ++ bytesOf ": " ++ e.message)
      Plan.exit 125
  | none => pure ()
  match command with
  | [] =>
    i.print (environment.flatMap fun (name, value) =>
      name ++ '=' :: value ++ [if has given '0' then '\x00' else '\n'])
    return 0
  | name :: _ =>
    let e ← runOnPath environment command
    i.complain (quotedCommand name ++ bytesOf ": " ++ e.message)
    return if e == .notFound then 127 else 126
where
  quotedCommand (name : Bytes) : Bytes := quotedName name

end Frontier.Tool
