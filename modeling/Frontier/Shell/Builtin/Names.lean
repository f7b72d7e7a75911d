import Frontier.Shell.Builtin.Variables
import Frontier.Shell.Token

/-!
# Commands about commands
-/

namespace Frontier.Shell

/-- Says what a command is: in one word, or in a sentence if `inWords`. -/
def describe (name : Bytes) (path : Option Bytes) (inWords : Bool) : Sh Nat := do
  let say (sentence : String) : Sh Nat := do
    Sh.print (if inWords then name ++ bytesOf sentence ++ ['\n'] else name ++ ['\n'])
    return 0
  let s ← get
  if (keywords.lookup (String.ofList name)).isSome then return ← say " is a shell keyword"
  match s.aliases.lookup name with
  | some value =>
    if inWords then Sh.print (name ++ bytesOf " is an alias for " ++ value ++ ['\n'])
    else Sh.print (bytesOf "alias " ++ name ++ '=' :: singleQuoted value ++ ['\n'])
    return 0
  | none =>
    let isTracked := path.isNone && s.hashed.any (·.1 == name)
    match ← findCommand name true path with
    | .own command => say (if specialCommands.contains command then " is a special shell builtin" else " is a shell builtin")
    | .function .. => say " is a shell function"
    | .program full =>
      let isThere ← if name.contains '/' then do
          match ← Sh.ask (.facts full true) with
          | .ok _ => pure true
          | .error _ => pure false
        else pure true
      if !isThere then
        if inWords then Sh.print (name ++ bytesOf ": not found\n")
        return 127
      Sh.print (if inWords then name ++ bytesOf (if isTracked then " is a tracked alias for " else " is ") ++ full ++ ['\n']
        else full ++ ['\n'])
      return 0
    | .unknown _ =>
      if inWords then Sh.print (name ++ bytesOf ": not found\n")
      return 127

def typeCommand : Builtin := fun args => do
  let mut status := 0
  for name in args do
    status := status ||| (← describe name none true)
  return status

/-- Says what a command is; to run one is not this command's work. -/
def commandCommand : Builtin := fun args => do
  let (options, args) ← optionsOf "pvV" args
  let letters := options.map (·.1)
  match args with
  | name :: _ =>
    if letters.contains 'v' || letters.contains 'V' then
      describe name (if letters.contains 'p' then some standardPath else none) (letters.contains 'V')
    else return 0
  | [] => return 0

def hashCommand : Builtin := fun args => do
  let (options, args) ← optionsOf "r" args
  if !options.isEmpty then
    modify fun s => { s with hashed := [] }
    return 0
  if args.isEmpty then
    for (_, full) in (← get).hashed.mergeSort fun a b => Sh.row 31 a.1 ≤ Sh.row 31 b.1 do Sh.print (full ++ ['\n'])
    return 0
  let mut status := 0
  for name in args do
    modify fun s => { s with hashed := s.hashed.filter (·.1 != name) }
    match ← findCommand name true none with
    | .unknown e =>
      Sh.warn (name ++ bytesOf ": " ++ reason e "not found")
      status := 1
    | _ => pure ()
  return status

end Frontier.Shell
