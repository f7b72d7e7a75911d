import Frontier.Shell.Builtin.Names
import Frontier.Shell.Builtin.Place
import Frontier.Shell.Builtin.Read
import Frontier.Shell.Builtin.Signals
import Frontier.Shell.Builtin.Test
import Frontier.Shell.Script

/-!
# Commands that steer, and the table of commands
-/

namespace Frontier.Shell

/-- Leaves loops, or goes on with their next round. -/
def loopCommand (skip : Nat → Skip) : Builtin := fun args => do
  let n ← match args with
    | arg :: _ => do
      let n ← numberOf arg
      if n == 0 then Sh.fail (bytesOf "Illegal number: " ++ arg)
      pure n
    | [] => pure 1
  let n := min n (← get).loops
  if 0 < n then modify fun s => { s with skip := skip n }
  return 0

def returnCommand : Builtin := fun args => do
  match args with
  | arg :: _ =>
    let status ← numberOf arg
    modify fun s => { s with skip := .return true }
    return status
  | [] =>
    modify fun s => { s with skip := .return false }
    return (← get).status

def exitCommand : Builtin := fun args => do
  match args with
  | arg :: _ =>
    let status ← numberOf arg
    modify fun s => { s with asked := some status }
  | [] => pure ()
  Sh.raise .exit

def evalCommand (r : Runner) (m : Manner) : Builtin := fun args => do
  if args.isEmpty then return 0 else r.runText { isTested := m.isTested } (Bytes.join [' '] args)

def execCommand : Builtin := fun args => do
  let (_, args) ← optionsOf "" args
  if args.isEmpty then return 0 else takeOver (← searchPath) args

/-- Where a script is that is to be read into the shell. -/
def scriptNamed (name : Bytes) : Sh Bytes := do
  if name.contains '/' then return name
  let mut found := none
  for dir in Bytes.split ':' (← searchPath) do
    if found.isNone then
      match ← Sh.ask (.facts (inDirectory dir name) true) with
      | .ok facts => if facts.kind == .plain then found := some (inDirectory dir name)
      | .error _ => pure ()
  match found with
  | some full => return full
  | none => Sh.fail (name ++ bytesOf ": not found")

def dotCommand (r : Runner) : Builtin := fun args => do
  let (_, args) ← optionsOf "" args
  match args with
  | [] => return 0
  | arg :: _ =>
    let name ← scriptNamed arg
    let descriptor ← openScript name
    modify fun s => { s with command := some name }
    let status ← runFrom r.run descriptor
    let _ ← Sh.ask (.close descriptor)
    return status

/-- The command of the shell with a name. -/
def commandNamed (r : Runner) (m : Manner) : String → Builtin
  | "." => dotCommand r
  | "[" => bracket
  | "alias" => aliasCommand
  | "bg" | "fg" => controlCommand
  | "break" => loopCommand .break
  | "cd" | "chdir" => cdCommand
  | "command" => commandCommand
  | "continue" => loopCommand .continue
  | "echo" => echo
  | "eval" => evalCommand r m
  | "exec" => execCommand
  | "exit" => exitCommand
  | "export" => exportCommand
  | "false" => fun _ => pure 1
  | "getopts" => getoptsCommand
  | "hash" => hashCommand
  | "jobs" => jobsCommand
  | "kill" => killCommand
  | "local" => localCommand
  | "printf" => printf
  | "pwd" => pwdCommand
  | "read" => readCommand
  | "readonly" => readonlyCommand
  | "return" => returnCommand
  | "set" => setCommand
  | "shift" => shiftCommand
  | "test" => test
  | "times" => timesCommand
  | "trap" => trapCommand
  | "type" => typeCommand
  | "ulimit" => ulimitCommand
  | "umask" => umaskCommand
  | "unalias" => unaliasCommand
  | "unset" => unsetCommand
  | "wait" => waitCommand
  | _ => fun _ => pure 0

end Frontier.Shell
