import Frontier.Shell.Builtin.Print

/-!
# Commands for variables, parameters and options
-/

namespace Frontier.Shell

/-- A text between single quotes. Single quotes inside stand between double quotes. -/
def singleQuoted (text : Bytes) : Bytes :=
  let parts := text.splitBy fun a b => (a == '\'') == (b == '\'')
  let shown := parts.map fun part =>
    if part.head? == some '\'' then '"' :: part ++ ['"'] else '\'' :: part ++ ['\'']
  if text.isEmpty then ['\'', '\''] else shown.flatten

/-- Prints variables in the order of their names. -/
def showVariables (before : Bytes) (shows : Variable → Bool) : Sh Unit := do
  let shown := ((← get).vars.filter fun p => shows p.2).mergeSort fun a b => Bytes.le a.1 b.1
  for (name, v) in shown do
    let value := match v.value with
      | some value => '=' :: singleQuoted value
      | none => []
    Sh.print ((if before.isEmpty then [] else before ++ [' ']) ++ name ++ value ++ ['\n'])

/-- The name and the value in an argument; no value without an equals sign. -/
def nameAndValue (arg : Bytes) : Bytes × Option Bytes :=
  let name := arg.takeWhile (· != '=')
  (name, if name.length < arg.length then some (arg.drop (name.length + 1)) else none)

/-- Marks variables. -/
def markVariables (command : String) (isMarked : Variable → Bool) (mark : Variable → Variable) : Builtin := fun args => do
  let (options, args) ← optionsOf "p" args
  if !options.isEmpty || args.isEmpty then
    showVariables (bytesOf command) isMarked
  else
    for arg in args do
      let (name, value) := nameAndValue arg
      let old := (← get).vars.lookup name
      match value, old with
      | none, some old => Sh.putVariable name (some (mark old))
      | none, none =>
        if !isName name then Sh.fail (name ++ bytesOf ": bad variable name")
        Sh.putVariable name (some (mark { value := none }))
      | some value, _ =>
        Sh.assign name value
        let new := ((← get).vars.lookup name).getD { value := some value }
        Sh.putVariable name (some (mark new))
  return 0

def exportCommand : Builtin := markVariables "export" (·.isExported) fun v => { v with isExported := true }

def readonlyCommand : Builtin := markVariables "readonly" (·.isFixed) fun v => { v with isFixed := true }

/-- Takes variables or functions away. -/
def unsetCommand : Builtin := fun args => do
  let (options, args) ← optionsOf "vf" args
  for name in args do
    if (options.getLast?.map (·.1)) == some 'f' then
      modify fun s => { s with functions := s.functions.filter (·.1 != name) }
    else
      let old := (← get).vars.lookup name
      Sh.setVariable name none false
      if old.isSome then Sh.putVariable name none
  return 0

/-- Puts a variable aside and may give it a value. -/
def makeLocal (arg : Bytes) (exports : Bool) : Sh Unit := do
  if arg == ['-'] then Sh.keep (.options (← get).options)
  else
    let (name, value) := nameAndValue arg
    let old := (← get).vars.lookup name
    if old.isNone && !isName name then Sh.fail (name ++ bytesOf ": bad variable name")
    if value.isSome && old.any (·.isFixed) then Sh.fail (name ++ bytesOf ": is read only")
    Sh.keep (.variable name old)
    match value with
    | some value => Sh.setVariable name (some value) exports
    | none => pure ()

def localCommand : Builtin := fun args => do
  if (← get).locals.isEmpty then Sh.failWith "not in a function"
  for arg in args do makeLocal arg false
  return 0

/-- The names of options with their letters. -/
def optionNames : List (String × Option Char) :=
  [("errexit", some 'e'), ("noglob", some 'f'), ("ignoreeof", some 'I'), ("interactive", some 'i'),
    ("monitor", some 'm'), ("noexec", some 'n'), ("stdin", some 's'), ("xtrace", some 'x'), ("verbose", some 'v'),
    ("vi", some 'V'), ("emacs", some 'E'), ("noclobber", some 'C'), ("allexport", some 'a'), ("notify", some 'b'),
    ("nounset", some 'u'), ("privileged", some 'p'), ("nolog", none), ("debug", none)]

/-- Turns an option on or off. -/
def turn (letter : Char) (on : Bool) : Sh Unit := do
  if !optionNames.any (·.2 == some letter) then Sh.fail (bytesOf "Illegal option -" ++ [letter])
  if letter == 'm' && on then Sh.warn (bytesOf "can't access tty; job control turned off")
  else
    let other := if !on then none else if letter == 'E' then some 'V' else if letter == 'V' then some 'E' else none
    modify fun s => { s with
      options := (if on then [letter] else []) ++ s.options.filter fun c => c != letter && some c != other }

/-- Turns an option on or off by its name; shows all of them if there is no name. -/
def turnNamed (name : Option Bytes) (on : Bool) : Sh Unit := do
  match name with
  | none =>
    let options := (← get).options
    if on then Sh.print (bytesOf "Current option settings\n")
    for (name, letter) in optionNames do
      let isOn := letter.any options.contains
      Sh.print (if on then ({ left := true, width := 16 } : Layout).pad (bytesOf name) ++ bytesOf (if isOn then "on\n" else "off\n")
        else bytesOf (if isOn then "set -o " else "set +o ") ++ bytesOf name ++ ['\n'])
  | some name =>
    match optionNames.lookup (String.ofList name) with
    | some (some letter) => turn letter on
    | some none => pure ()
    | none => Sh.fail (bytesOf "Illegal option -o " ++ name)

/-- Reads options of the shell; gives the other arguments, whether `--` stood before them, and whether commands are to
come from the first of them. Every step of `fuel` takes an argument. -/
def shellOptions (atStart : Bool) : (fuel : Nat) → List Bytes → Sh (List Bytes × Bool × Bool)
  | 0, args => return (args, false, false)
  | _ + 1, [] => return ([], false, false)
  | fuel + 1, arg :: rest => do
    let turnAll (on : Bool) (letters : Bytes) : Sh (List Bytes × Bool × Bool) := do
      let mut rest := rest
      let mut commands := false
      for letter in letters do
        if letter == 'c' && atStart then commands := true
        else if letter == 'l' && atStart then pure ()
        else if letter == 'o' then
          turnNamed rest.head? on
          rest := rest.tail
        else turn letter on
      let (args, ended, more) ← shellOptions atStart fuel rest
      return (args, ended, commands || more)
    match arg with
    | ['-'] =>
      if !atStart then modify fun s => { s with options := s.options.filter fun c => c != 'x' && c != 'v' }
      return (rest, false, false)
    | ['-', '-'] => return (rest, true, false)
    | '-' :: letters => turnAll true letters
    | '+' :: letters => turnAll false letters
    | _ => return (arg :: rest, false, false)

def setCommand : Builtin := fun args => do
  if args.isEmpty then showVariables [] (·.value.isSome)
  else
    let (rest, ended, _) ← shellOptions false (args.length + 1) args
    if ended || !rest.isEmpty then
      modify fun s => { s with params := rest, optionIndex := 1, optionOffset := none }
  return 0

/-- A number among the arguments. -/
def numberOf (arg : Bytes) : Sh Nat := do
  match smallNumber? arg with
  | some n => return n
  | none => Sh.fail (bytesOf "Illegal number: " ++ arg)

def shiftCommand : Builtin := fun args => do
  let n ← match args with
    | arg :: _ => numberOf arg
    | [] => pure 1
  if (← get).params.length < n then Sh.failWith "can't shift that many"
  modify fun s => { s with params := s.params.drop n, optionIndex := 1, optionOffset := none }
  return 0

/-- The next option of a program that is given as a script. -/
def getoptsCommand : Builtin := fun args => do
  let (_, args) ← optionsOf "" args
  match args with
  | letters :: name :: given =>
    let s ← get
    let given := if given.isEmpty then s.params else given
    let (index, offset) := if given.length + 1 < s.optionIndex then (1, none) else (s.optionIndex, s.optionOffset)
    let inside : Bytes := match offset with
      | some n => if index ≤ 1 then [] else (given.getD (index - 2) []).drop n
      | none => []
    let finish (c : Char) (index : Nat) (offset : Option Nat) (status : Nat) : Sh Nat := do
      Sh.assign (bytesOf "OPTIND") (Bytes.ofNat index)
      Sh.assign name [c]
      modify fun s => { s with optionIndex := index, optionOffset := offset }
      return status
    let argument := bytesOf "OPTARG"
    -- the letters still to be read in this argument, and the number of the next argument
    let current : Option (Bytes × Nat) :=
      if !inside.isEmpty then some (inside, index)
      else match given[index - 1]? with
        | some ('-' :: c :: more) => if c == '-' && more.isEmpty then none else some (c :: more, index + 1)
        | _ => none
    match current with
    | none => finish '?' (if given[index - 1]? == some ['-', '-'] && inside.isEmpty then index + 1 else index) none 1
    | some ([], _) => finish '?' index none 1
    | some (c :: more, next) =>
      let offsetOf (rest : Bytes) : Option Nat := some ((given.getD (next - 2) []).length - rest.length)
      let form := letters.dropWhile (· != c)
      if form.isEmpty || c == ':' then
        if letters.head? == some ':' then Sh.assign argument [c]
        else
          Sh.complain (bytesOf "Illegal option -" ++ [c, '\n'])
          Sh.setVariable argument none false
        finish '?' next (offsetOf more) 0
      else if form.tail.head? == some ':' then
        if !more.isEmpty then
          Sh.assign argument more
          finish c next none 0
        else match given[next - 1]? with
          | some value =>
            Sh.assign argument value
            finish c (next + 1) none 0
          | none =>
            if letters.head? == some ':' then
              Sh.assign argument [c]
              finish ':' next (offsetOf more) 0
            else
              Sh.complain (bytesOf "No arg for -" ++ c :: bytesOf " option\n")
              Sh.setVariable argument none false
              finish '?' next (offsetOf more) 0
      else
        Sh.assign argument []
        finish c next (offsetOf more) 0
  | _ => Sh.failWith "Usage: getopts optstring var [arg...]"

/-- Shows or sets other names of commands. -/
def aliasCommand : Builtin := fun args => do
  let shown (name value : Bytes) : Bytes := name ++ '=' :: singleQuoted value ++ ['\n']
  if args.isEmpty then
    for (name, value) in (← get).aliases do Sh.print (shown name value)
    return 0
  let mut status := 0
  for arg in args do
    let (name, value) := nameAndValue arg
    match value with
    | some value =>
      if name.isEmpty then
        Sh.complain (bytesOf "alias: " ++ arg ++ bytesOf " not found\n")
        status := 1
      else modify fun s => { s with aliases := s.aliases.filter (·.1 != name) ++ [(name, value)] }
    | none =>
      match (← get).aliases.lookup name with
      | some value => Sh.print (shown name value)
      | none =>
        Sh.complain (bytesOf "alias: " ++ name ++ bytesOf " not found\n")
        status := 1
  return status

def unaliasCommand : Builtin := fun args => do
  let (options, args) ← optionsOf "a" args
  if !options.isEmpty then
    modify fun s => { s with aliases := [] }
    return 0
  let mut status := 0
  for name in args do
    if (← get).aliases.any (·.1 == name) then
      modify fun s => { s with aliases := s.aliases.filter (·.1 != name) }
    else
      Sh.complain (bytesOf "unalias: " ++ name ++ bytesOf " not found\n")
      status := 1
  return status

end Frontier.Shell
