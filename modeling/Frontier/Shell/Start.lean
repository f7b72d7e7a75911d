import Frontier.Shell.Eval

/-!
# Starting a shell

A shell reads its options, and then a script: from its arguments, from a file, or from its input.
-/

namespace Frontier
namespace Shell

/-- How deep commands may be run inside each other. -/
def runDepth : Nat := 100000

/-- The variables that a shell sets before it knows its environment. -/
def firstVariables : List (String × String) :=
  [("IFS", " \t\n"), ("PS1", "# "), ("PS2", "> "), ("PS4", "+ "), ("OPTIND", "1")]

/-- Sets the variables that a shell begins with. -/
def setOut (environment : List (Bytes × Bytes)) : Sh Unit := do
  Sh.putVariable (bytesOf "PATH") (some { value := some standardPath })
  for (name, value) in firstVariables do
    Sh.putVariable (bytesOf name) (some { value := some (bytesOf value) })
  for (name, value) in environment do
    if isName name && !firstVariables.any (fun p => bytesOf p.1 == name && p.1 != "PS4" && p.1 != "PS1" && p.1 != "PS2") then
      Sh.putVariable name (some { value := some value, isExported := true })
  let (self, parent) ← Sh.ask .identity
  Sh.putVariable (bytesOf "PPID") (some { value := some (Bytes.ofNat parent) })
  modify fun s => { s with root := self }
  let here ← Sh.ask .directory
  let named := (← Sh.value? (bytesOf "PWD")).filter fun name => name.head? == some '/'
  let isHere ← match named with
    | none => pure false
    | some name => do
      match ← Sh.ask (.facts name true), ← Sh.ask (.facts ['.'] true) with
      | .ok a, .ok b => pure (a.number == b.number)
      | _, _ => pure false
  settle (if isHere then named else here.toOption) false
  let mut deafTo := []
  for signal in (List.range signalCount).drop 1 do
    if (← Sh.ask (.provision signal)) == .ignored then deafTo := signal :: deafTo
  modify fun s => { s with deafTo }

/-- Where a shell has its script from. -/
inductive Source where
  | text (script : Bytes) (thenInput : Bool)
  | descriptor (d : Nat)
  deriving Repr, Inhabited

/-- Reads the arguments of a shell. -/
def readArguments (args : List Bytes) : Sh Source := do
  let (rest, _, hasText) ← shellOptions true (args.length + 1) args
  if rest.isEmpty then
    if hasText then Sh.failWith "-c requires an argument"
    modify fun s => { s with options := 's' :: s.options.filter (· != 's') }
  let fromInput ← Sh.option 's'
  let (source, params) ← match hasText, rest with
    | true, script :: [] => pure (.text script fromInput, [])
    | true, script :: name :: params => do
      modify fun s => { s with name }
      pure (.text script fromInput, params)
    | false, name :: params => do
      if fromInput then pure (.descriptor 0, name :: params)
      else
        let d ← openScript name
        modify fun s => { s with name }
        pure (Source.descriptor d, params)
    | _, [] => pure (.descriptor 0, [])
  modify fun s => { s with params }
  return source

/-- The whole of a shell. -/
def whole (args : List Bytes) (environment : List (Bytes × Bytes)) : Sh Nat := do
  let r := runner runDepth
  setOut environment
  live r do
    match ← readArguments args with
    | .text script thenInput =>
      let status ← r.runText { isLast := !thenInput } script
      if thenInput then runFrom r.run 0 else return status
    | .descriptor d => runFrom r.run d

end Shell

/-- A shell as a program. -/
def Shell.routine (name : Bytes) (args : List Bytes) (environment : List (Bytes × Bytes)) : Routine :=
  Shell.whole args environment { name } fun
    | .ok status, _ => .done (status % 256)
    | .error _, s => .done (s.status % 256)

end Frontier
