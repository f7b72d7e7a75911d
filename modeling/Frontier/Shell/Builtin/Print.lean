import Frontier.Shell.Command
import Frontier.Shell.Number
import Frontier.Tool.Decimal

/-!
# Printing commands

`echo` prints its arguments. `printf` prints by a format, which is used again while arguments are left.
-/

namespace Frontier.Shell

/-- A command of the shell, with its arguments. -/
abbrev Builtin := List Bytes → Sh Nat

/-- The character that a letter stands for after a backslash. -/
def letterEscape? : Char → Option Char
  | '\\' => some '\\'
  | 'a' => some '\x07'
  | 'b' => some '\x08'
  | 'e' => some '\x1b'
  | 'f' => some '\x0c'
  | 'n' => some '\n'
  | 'r' => some '\r'
  | 't' => some '\t'
  | 'v' => some '\x0b'
  | _ => none

/-- Reads what follows a backslash: a letter, or up to three octal digits. A backslash before anything else stands for
itself. -/
def readEscape (text : Bytes) : Char × Bytes :=
  match text with
  | [] => ('\\', [])
  | c :: rest =>
    match letterEscape? c with
    | some d => (d, rest)
    | none =>
      let digits := (text.take 3).takeWhile fun c => Bytes.digitValue c < 8
      if digits.isEmpty then ('\\', text)
      else (Char.ofNat ((Bytes.readDigits 8 0 digits).1 % 256), text.drop digits.length)

/-- A text with its backslashes read; the flag tells that it asks to end all output. An octal number may begin with a
zero more. Every step of `fuel` reads a character or more. -/
def escaped : (fuel : Nat) → Bytes → Bytes × Bool
  | 0, _ | _ + 1, [] => ([], false)
  | _ + 1, '\\' :: 'c' :: _ => ([], true)
  | fuel + 1, '\\' :: rest =>
    let rest := match rest with
      | '0' :: d :: more => if Bytes.digitValue d < 8 then d :: more else rest
      | _ => rest
    let (c, rest) := readEscape rest
    let (more, stop) := escaped fuel rest
    (c :: more, stop)
  | fuel + 1, c :: rest =>
    let (more, stop) := escaped fuel rest
    (c :: more, stop)

/-- What `echo` prints after its option. -/
def echoText (lineEnd : Bytes) : List Bytes → Bytes
  | [] => lineEnd
  | [arg] =>
    let (text, stop) := escaped (arg.length + 1) arg
    if stop then text else text ++ lineEnd
  | arg :: rest =>
    let (text, stop) := escaped (arg.length + 1) arg
    if stop then text else text ++ ' ' :: echoText lineEnd rest

/-- Prints the arguments. -/
def echo : Builtin := fun args => do
  match args with
  | ['-', 'n'] :: rest => Sh.print (echoText [] rest)
  | _ => Sh.print (echoText ['\n'] args)
  return 0

namespace Printing

/-- How far a format was printed. -/
structure State where
  args : List Bytes
  /-- Whether an argument was taken. -/
  used : Bool := false
  status : Nat := 0
  deriving Inhabited

/-- Takes the next argument. -/
def take (s : State) : Option Bytes × State := (s.args.head?, { s with args := s.args.tail, used := true })

/-- A complaint about an argument. -/
def complain (s : State) (arg : Bytes) (what : String) : Sh State := do
  Sh.warn (arg ++ bytesOf (": " ++ what))
  return { s with status := 1 }

/-- What is wrong with a number, by what was read of it. -/
def check (s : State) (arg rest : Bytes) (outside : Bool) : Sh State := do
  if !rest.isEmpty then
    if rest.length == arg.length then complain s arg "expected numeric value"
    else complain s arg "not completely converted"
  else if outside then complain s arg "Numerical result out of range"
  else return s

/-- The next argument as a whole number. One that begins with a quote stands for its next character. -/
def wholeNumber (isSigned : Bool) (s : State) : Sh (Int × State) := do
  match take s with
  | (none, s) => return (0, s)
  | (some arg, s) =>
    match arg with
    | '\'' :: rest | '"' :: rest => return ((rest.headD '\x00').toNat, s)
    | _ =>
      match readNumber? none arg with
      | none => return (0, ← check s arg arg false)
      | some (n, rest) =>
        let top : Int := 0xFFFFFFFFFFFFFFFF
        let outside := if isSigned then clamp n != n else top < n.natAbs
        let value := if isSigned then clamp n else if top < n.natAbs then top else n
        return (value, ← check s arg rest outside)

/-- The next argument as a number with a point. -/
def quantity (s : State) : Sh (Quantity × State) := do
  match take s with
  | (none, s) => return (.finite false 0 1, s)
  | (some arg, s) =>
    match arg with
    | '\'' :: rest | '"' :: rest => return (.finite false (rest.headD '\x00').toNat 1, s)
    | _ =>
      match Quantity.read Quantity.double arg with
      | none => return (.finite false 0 1, ← check s arg arg false)
      | some (q, outside, rest) => return (q, ← check s arg rest outside)

/-- Reads a width or a precision, which may be an argument. -/
def measure (s : State) (format : Bytes) : Sh (Int × State × Bytes) := do
  match format with
  | '*' :: rest =>
    let (n, s) ← wholeNumber true s
    return (n, s, rest)
  | _ =>
    let (n, rest) := Bytes.readDigits 10 0 format
    return (n, s, rest)

/-- Prints one conversion after its percent sign; nothing is left of the format if all output ends. -/
def conversion (s : State) (format : Bytes) : Sh (State × Option Bytes) := do
  let (layout, rest) := Layout.readFlags {} format
  let (width, s, rest) ← measure s rest
  let layout := { layout with left := layout.left || width < 0, width := width.natAbs }
  let (precision, s, rest) ← match rest with
    | '.' :: rest => do
      let (n, s, rest) ← measure s rest
      pure (if n < 0 then none else some n.toNat, s, rest)
    | rest => pure (none, s, rest)
  let layout := { layout with precision }
  match rest with
  | [] => Sh.failWith "missing format character"
  | letter :: rest =>
    let unsigned (base : Nat) : Sh (State × Option Bytes) := do
      let (n, s) ← wholeNumber false s
      Sh.print (layout.unsigned base (letter == 'X') (n % 0x10000000000000000).toNat)
      return (s, some rest)
    if letter == 's' then
      let (arg, s) := take s
      Sh.print (layout.text (arg.getD []))
      return (s, some rest)
    else if letter == 'b' then
      let (arg, s) := take s
      let arg := arg.getD []
      let (text, stop) := escaped (arg.length + 1) arg
      Sh.print (layout.text text)
      return (s, if stop then none else some rest)
    else if letter == 'c' then
      let (arg, s) := take s
      Sh.print (layout.pad [(arg.getD []).headD '\x00'])
      return (s, some rest)
    else if letter == 'd' || letter == 'i' then
      let (n, s) ← wholeNumber true s
      Sh.print (layout.signed n)
      return (s, some rest)
    else if letter == 'u' then unsigned 10
    else if letter == 'o' then unsigned 8
    else if letter == 'x' || letter == 'X' then unsigned 16
    else if "aAeEfFgG".toList.contains letter then
      let (q, s) ← quantity s
      Sh.print (layout.real letter q)
      return (s, some rest)
    else Sh.fail ('%' :: format.take (format.length - rest.length) ++ bytesOf ": invalid directive")

/-- Prints a format once; the flag tells that all output ends. Every step of `fuel` reads a character or more. -/
def once : (fuel : Nat) → State → Bytes → Sh (State × Bool)
  | 0, s, _ | _ + 1, s, [] => return (s, false)
  | fuel + 1, s, '\\' :: rest => do
    let (c, rest) := readEscape rest
    Sh.print [c]
    once fuel s rest
  | fuel + 1, s, '%' :: '%' :: rest => do
    Sh.print ['%']
    once fuel s rest
  | fuel + 1, s, '%' :: rest => do
    match ← conversion s rest with
    | (s, some rest) => once fuel s rest
    | (s, none) => return (s, true)
  | fuel + 1, s, c :: rest => do
    let run := rest.takeWhile fun c => c != '\\' && c != '%'
    Sh.print (c :: run)
    once fuel s (rest.drop run.length)

/-- Prints a format again and again, as long as arguments are left and taken. Every step of `fuel` takes an argument
or more. -/
def all (format : Bytes) : (fuel : Nat) → State → Sh Nat
  | 0, s => return s.status
  | fuel + 1, s => do
    let (s, stop) ← once (format.length + 1) { s with used := false } format
    if stop || !s.used || s.args.isEmpty then return s.status else all format fuel s

end Printing

/-- Options as commands of the shell take them; `letters` has a colon after each letter with a value. -/
def ownOptions (letters : String) : (fuel : Nat) → List Bytes → Sh (List (Char × Bytes) × List Bytes)
  | 0, args => return ([], args)
  | fuel + 1, args => do
    match args with
    | ['-', '-'] :: rest => return ([], rest)
    | ('-' :: c :: more) :: rest =>
      let form := letters.toList.dropWhile (· != c)
      if form.isEmpty || c == ':' then Sh.fail (bytesOf "Illegal option -" ++ [c])
      let onward (value : Bytes) (args : List Bytes) : Sh (List (Char × Bytes) × List Bytes) := do
        let (options, args) ← ownOptions letters fuel args
        return ((c, value) :: options, args)
      if form.tail.head? == some ':' then
        match more, rest with
        | [], value :: rest => onward value rest
        | [], [] => Sh.fail (bytesOf "No arg for -" ++ c :: bytesOf " option")
        | value, rest => onward value rest
      else onward [] (if more.isEmpty then rest else ('-' :: more) :: rest)
    | args => return ([], args)

/-- Reads options. -/
def optionsOf (letters : String) (args : List Bytes) : Sh (List (Char × Bytes) × List Bytes) :=
  ownOptions letters ((args.map List.length).foldl (· + ·) 1) args

/-- Prints by a format. -/
def printf : Builtin := fun args => do
  let (_, args) ← optionsOf "" args
  match args with
  | [] => Sh.failWith "usage: printf format [arg ...]"
  | format :: args => Printing.all format (args.length + 1) { args }

end Frontier.Shell
