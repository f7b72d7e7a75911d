import Frontier.Shell.Redirect

/-!
# Finding and running programs

A command is a function, a command of the shell itself, or a program in one of the directories of the search path.
-/

namespace Frontier.Shell

/-- Where programs are looked for if nothing else is said. -/
def standardPath : Bytes := bytesOf "/usr/local/sbin:/usr/local/bin:/usr/sbin:/usr/bin:/sbin:/bin"

/-- Commands of the shell that are found before anything on the search path. -/
def regularCommands : List String :=
  specialCommands ++ ["alias", "bg", "cd", "chdir", "command", "false", "fg", "getopts", "jobs", "kill", "read",
    "true", "ulimit", "umask", "unalias", "wait"]

/-- The commands of the shell. -/
def ownCommands : List String := regularCommands ++ ["[", "echo", "hash", "printf", "pwd", "test", "type"]

/-- Commands whose arguments may be assignments. -/
def assigningCommands : List String := ["alias", "export", "local", "readonly"]

/-- What a command is. -/
inductive Found where
  | own (name : String)
  | function (line : Nat) (body : Tree)
  | program (path : Bytes)
  | unknown (e : Errno)
  deriving Inhabited

/-- The search path. -/
def searchPath : Sh Bytes := return (← Sh.value? (bytesOf "PATH")).getD standardPath

/-- A name in a directory of the search path. -/
def inDirectory (dir name : Bytes) : Bytes := if dir.isEmpty then name else dir ++ ['/'] ++ name

/-- Whether any user may run a file. -/
def isRunnable (facts : FileFacts) : Bool := facts.kind == .plain && facts.mode / 64 % 2 == 1

/-- Looks for a program on a search path. -/
def onPath (path name : Bytes) : Sh (Except Errno Bytes) := do
  let mut e : Errno := .notFound
  for dir in Bytes.split ':' path do
    let full := inDirectory dir name
    match ← Sh.ask (.facts full true) with
    | .ok facts =>
      if isRunnable facts then return .ok full
      e := .accessDenied
    | .error other =>
      if other != .notFound && other != .notDirectory then e := other
  return .error e

/-- Finds a command; on the search path, unless another path is given. Where a program was found is remembered. -/
def findCommand (name : Bytes) (functions : Bool) (path : Option Bytes) : Sh Found := do
  if name.contains '/' then return .program name
  let defined := (← get).functions.lookup name
  match if functions then defined else none with
  | some (line, body) => return .function line body
  | none =>
    let text := String.ofList name
    if ownCommands.contains text then return .own text
    let known := (← get).hashed.lookup name
    match if path.isNone then known else none with
    | some full => return .program full
    | none =>
      match ← onPath (← path.getDM searchPath) name with
      | .ok full =>
        if path.isNone then modify fun s => { s with hashed := s.hashed ++ [(name, full)] }
        return .program full
      | .error e => return .unknown e

/-- A program takes over from the shell. If it cannot, the shell ends. -/
def takeOver {α : Type} (path : Bytes) (args : List Bytes) : Sh α := do
  let name := args.headD []
  let environment ← Sh.environment
  let attempt (full : Bytes) : Sh Errno := do
    let e ← Sh.ask (.run full args environment)
    if e == .badFormat then Sh.ask (.run (bytesOf "/bin/sh") (bytesOf "/bin/sh" :: full :: args.tail) environment)
    else return e
  let e ← if name.contains '/' then attempt name else do
    let mut e : Errno := .notFound
    for dir in Bytes.split ':' path do
      let other ← attempt (inDirectory dir name)
      if other != .notFound && other != .notDirectory then e := other
    pure e
  let absent := [.notFound, .notDirectory, .nameTooLong, .tooManyLinks].contains e
  Sh.warn (name ++ bytesOf ": " ++ reason e "not found")
  Sh.flush
  modify fun s => { s with status := if absent then 127 else 126 }
  Sh.raise .finished

end Frontier.Shell
