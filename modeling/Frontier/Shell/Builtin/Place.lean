import Frontier.Shell.Builtin.Variables

/-!
# Commands for the directory and the surroundings
-/

namespace Frontier.Shell

/-- The directory that a path leads to when names and dots are read as text. -/
def pathFrom (directory path : Bytes) : Bytes :=
  let isRooted := path.head? == some '/'
  let slashes := if isRooted then path.takeWhile (· == '/') else directory.takeWhile (· == '/')
  let names (text : Bytes) : List Bytes := (Bytes.split '/' text).filter fun name => !name.isEmpty
  let walked := (names path).foldl (fun seen name =>
    if name == ['.'] then seen else if name == ['.', '.'] then seen.dropLast else seen ++ [name])
    (if isRooted then [] else names directory)
  (if slashes.length == 2 then ['/', '/'] else ['/']) ++ Bytes.join ['/'] walked

/-- The shell takes a directory for its own. -/
def settle (directory : Option Bytes) (keepsOld : Bool) : Sh Unit := do
  if keepsOld then Sh.setVariable (bytesOf "OLDPWD") (some (← get).directory) true
  let physical := (← Sh.ask .directory).toOption.getD []
  modify fun s => { s with directory := directory.getD physical, physical }
  Sh.setVariable (bytesOf "PWD") (some (directory.getD physical)) true

/-- Goes to a directory. -/
def enter (path : Bytes) (byText : Bool) : Sh Bool := do
  let s ← get
  let target := if byText && (path.head? == some '/' || !s.directory.isEmpty) then some (pathFrom s.directory path) else none
  match ← Sh.ask (.enter (target.getD path)) with
  | .ok () =>
    settle target true
    return true
  | .error _ => return false

/-- Whether a path is not looked for in other directories. -/
def isDirect : Bytes → Bool
  | '/' :: _ | ['.'] | '.' :: '/' :: _ | ['.', '.'] | '.' :: '.' :: '/' :: _ => true
  | _ => false

def cdCommand : Builtin := fun args => do
  let (options, args) ← optionsOf "LP" args
  let byText := (options.getLast?.map (·.1)) != some 'P'
  let (wanted, shows) ← match args.head? with
    | none => pure ((← Sh.value? (bytesOf "HOME")).getD [], false)
    | some ['-'] => pure ((← Sh.value? (bytesOf "OLDPWD")).getD [], true)
    | some path => pure (path, false)
  let path := if wanted.isEmpty then ['.'] else wanted
  let searched ← if isDirect wanted then pure none else do
    let dirs := (← Sh.value? (bytesOf "CDPATH")).map (Bytes.split ':')
    let mut found := none
    for dir in dirs.getD [[]] do
      if found.isNone then
        let full := if dir.isEmpty then path else dir ++ '/' :: path
        match ← Sh.ask (.facts full true) with
        | .ok facts => if facts.kind == .directory then found := some (full, !dir.isEmpty)
        | .error _ => pure ()
    pure found
  let (target, elsewhere) := searched.getD (path, false)
  if !(← enter target byText) then Sh.fail (bytesOf "can't cd to " ++ wanted)
  if shows || elsewhere then Sh.print ((← get).directory ++ ['\n'])
  return 0

def pwdCommand : Builtin := fun args => do
  let (options, _) ← optionsOf "LP" args
  let s ← get
  Sh.print ((if (options.getLast?.map (·.1)) == some 'P' then s.physical else s.directory) ++ ['\n'])
  return 0

namespace Mask

/-- The letters of permissions, with their values. -/
def letters (mask : Nat) : List (Char × Nat) :=
  [('r', 4), ('w', 2), ('x', 1), ('u', mask / 64), ('g', mask / 8), ('o', mask),
    ('X', if mask &&& 0o111 != 0 then 1 else 0), ('s', 0)]

/-- The letters of users, with their places. -/
def users : List (Char × Nat) := [('a', 0o111), ('u', 0o100), ('g', 0o10), ('o', 1)]

/-- The values of letters, joined. -/
def join (values : List (Char × Nat)) (text : Bytes) : Nat :=
  text.foldl (fun n c => n ||| (values.lookup c).getD 0) 0

/-- Reads changes of permissions; `places` are the users that were named before. Every step of `fuel` reads a
character. -/
def read (mask : Nat) : (fuel places new : Nat) → Bytes → Option Nat
  | 0, _, _, _ => none
  | _ + 1, _, new, [] => some new
  | fuel + 1, places, new, text =>
    let named := text.takeWhile fun c => users.any (·.1 == c)
    let places := places ||| join users named
    let places := if places == 0 then 0o111 else places
    match text.drop named.length with
    | [] => some new
    | operator :: rest =>
      if !(['=', '+', '-'].contains operator) then none
      else
        let given := rest.takeWhile fun c => (letters mask).any (·.1 == c)
        let value := ((join (letters mask) given) % 8) * places
        let new := match operator with
          | '-' => new - (new &&& value)
          | '+' => new ||| value
          | _ => value ||| (new - (new &&& (places * 7)))
        match rest.drop given.length with
        | ',' :: more => read mask fuel 0 new more
        | [] => some new
        | c :: more => if ['=', '+', '-'].contains c then read mask fuel places new (c :: more) else none

end Mask

def umaskCommand : Builtin := fun args => do
  let (options, args) ← optionsOf "S" args
  let mask := (← get).mask
  match args with
  | [] =>
    if options.isEmpty then Sh.print (Bytes.padded 8 4 mask ++ ['\n'])
    else
      let allowed := 0o777 - mask % 0o1000
      let part (name : Char) (place : Nat) : Bytes :=
        name :: '=' :: ([('r', 4), ('w', 2), ('x', 1)].filter fun p => allowed / place / p.2 % 2 == 1).map (·.1)
      Sh.print (Bytes.join [','] [part 'u' 64, part 'g' 8, part 'o' 1] ++ ['\n'])
  | arg :: _ =>
    if arg.head?.any Char.isDigit then
      let (n, rest) := Bytes.readDigits 8 0 arg
      if !rest.isEmpty then Sh.fail (bytesOf "Illegal number: " ++ arg)
      modify fun s => { s with mask := n % 0o1000 }
    else
      let allowed := 0o777 - mask % 0o1000
      match Mask.read allowed (arg.length + 1) 0 allowed arg with
      | some new => modify fun s => { s with mask := 0o777 - new % 0o1000 }
      | none => Sh.fail (bytesOf "Illegal mode: " ++ arg)
  return 0

/-- What a shell may use: the letter, the name and the limit. -/
def limits : List (Char × String × Option Nat) :=
  [('t', "time(seconds)", none), ('f', "file(blocks)", none), ('d', "data(kbytes)", none),
    ('s', "stack(kbytes)", some 8192), ('c', "coredump(blocks)", some 0), ('m', "memory(kbytes)", none),
    ('l', "locked memory(kbytes)", some 8192), ('p', "process", none), ('n', "nofiles", some 1024),
    ('v', "vmemory(kbytes)", none), ('w', "locks", none), ('r', "rtprio", some 0)]

/-- A limit as it is shown. -/
def shownLimit : Option Nat → Bytes
  | some n => Bytes.ofNat n
  | none => bytesOf "unlimited"

def ulimitCommand : Builtin := fun args => do
  let (options, args) ← optionsOf "HSatfdsmcnlpvwr" args
  let letters := options.map (·.1)
  let kind := (letters.filter fun c => !(['H', 'S', 'a'].contains c)).getLast?.getD 'f'
  match args with
  | [] =>
    if letters.contains 'a' then
      for (_, name, limit) in limits do
        Sh.print (({ left := true, width := 20 } : Layout).pad (bytesOf name) ++ ' ' :: shownLimit limit ++ ['\n'])
    else Sh.print (shownLimit ((limits.lookup kind).bind (·.2)) ++ ['\n'])
  | _ :: _ :: _ => Sh.failWith "too many arguments"
  | [arg] =>
    if letters.contains 'a' then Sh.failWith "too many arguments"
    if arg != bytesOf "unlimited" && !Bytes.isNumeral arg then Sh.failWith "bad number"
  return 0

/-- How long the shell and its children have worked; this is not measured. -/
def timesCommand : Builtin := fun _ => do
  Sh.print (bytesOf "0m0.000000s 0m0.000000s\n0m0.000000s 0m0.000000s\n")
  return 0

end Frontier.Shell
