import Frontier.Machine.Routine
import Frontier.Shell.Parser

/-!
# What a shell knows

A shell keeps variables, functions, options, traps and jobs. A step of it may leave what it is in the middle of: an
error, and the end of the shell, go up to where they are taken.
-/

namespace Frontier.Shell

/-- A variable. One without a value may still have its marks. -/
structure Variable where
  value : Option Bytes
  isExported : Bool := false
  isFixed : Bool := false
  deriving DecidableEq, Repr, Inhabited

/-- What `local` has put aside for the end of a function. -/
inductive Kept where
  | variable (name : Bytes) (old : Option Variable)
  | options (old : List Char)
  deriving Repr, Inhabited

/-- What the shell passes over until a loop or a function ends. -/
inductive Skip where
  | nothing
  /-- Out of so many loops. -/
  | break (count : Nat)
  /-- To the next round of the loop that is so many levels up. -/
  | continue (count : Nat)
  /-- To the end of a function or a script that was read; whether a status was given. -/
  | return (withStatus : Bool)
  deriving DecidableEq, Repr, Inhabited

/-- Children in the background that were started together. -/
structure Job where
  number : Nat
  /-- The children, and how they have ended. -/
  members : List (Nat × Option TaskEnd) := []
  /-- Whether somebody was told how it has ended. -/
  isTold : Bool := false
  deriving Repr, Inhabited

/-- Something that leaves what the shell is doing. -/
inductive Raise where
  | error
  /-- The shell was told to end. -/
  | exit
  /-- There is nothing more to do. -/
  | finished
  deriving DecidableEq, Repr, Inhabited

end Shell

open Shell in
/-- A shell. -/
structure Shell where
  /-- The name it was started by. -/
  name : Bytes
  params : List Bytes := []
  vars : List (Bytes × Variable) := []
  functions : List (Bytes × Nat × Tree) := []
  aliases : List (Bytes × Bytes) := []
  /-- The letters of the options that are on. -/
  options : List Char := []
  /-- What signals run; nothing if they are ignored. The number 0 is the end of the shell. -/
  traps : List (Nat × Bytes) := []
  /-- Signals that were ignored when the shell began. -/
  deafTo : List Nat := []
  /-- Signals that have come and were not answered yet. -/
  caught : List Nat := []
  status : Nat := 0
  /-- The status that `exit` has asked for. -/
  asked : Option Nat := none
  /-- The status of the last substitution of a command. -/
  substituted : Nat := 0
  skip : Skip := .nothing
  /-- How many loops the shell is in. -/
  loops : Nat := 0
  jobs : List Job := []
  /-- The number of the last program in the background. -/
  background : Option Nat := none
  /-- The line of the command that is run, for messages and as a variable. -/
  errorLine : Nat := 0
  line : Nat := 0
  /-- The line at which the function that is run begins, or zero. -/
  functionLine : Nat := 0
  /-- The command of the shell that is run. -/
  command : Option Bytes := none
  /-- What functions have put aside. -/
  locals : List (List Kept) := []
  documents : List (Nat × Document) := []
  nextDocument : Nat := 0
  /-- The number of the shell that stands above all. -/
  root : Nat := 0
  isRoot : Bool := true
  /-- Printed and not written yet, latest first. -/
  printed : List Bytes := []
  printedSize : Nat := 0
  /-- Whether printing has failed. -/
  isMute : Bool := false
  /-- Where `getopts` stands inside an argument. -/
  optionOffset : Option Nat := none
  optionIndex : Nat := 1
  /-- Descriptors that redirections have put aside: what each one was. -/
  saved : List (List (Nat × Option Nat)) := []
  /-- Where traces go. -/
  traceDescriptor : Nat := 2
  /-- The directory as the shell names it. -/
  directory : Bytes := []
  physical : Bytes := []
  /-- Where programs were found on the search path. -/
  hashed : List (Bytes × Bytes) := []
  /-- The permissions that new files do not get. -/
  mask : Nat := 0o022
  deriving Inhabited

open Shell in
/-- What a shell does: it may change what it knows, ask the system, and be left. -/
def Sh (α : Type) : Type := Shell → (Except Raise α → Shell → Routine) → Routine

namespace Sh
open Shell

instance : Monad Sh where
  pure a := fun s next => next (.ok a) s
  bind act f := fun s next => act s fun
    | .ok a, s => f a s next
    | .error e, s => next (.error e) s

instance : MonadStateOf Shell Sh where
  get := fun s next => next (.ok s) s
  set s := fun _ next => next (.ok ()) s
  modifyGet f := fun s next => next (.ok (f s).1) (f s).2

/-- Leaves what the shell is doing. -/
def raise {α : Type} (e : Raise) : Sh α := fun s next => next (.error e) s

/-- Does something and takes what leaves it. -/
def attempt {α : Type} (act : Sh α) : Sh (Except Raise α) := fun s next => act s fun result s => next (.ok result) s

/-- Something that needs no shell. -/
def act {α : Type} (a : Plan α) : Sh α := fun s next => a fun a => next (.ok a) s

/-- Asks the system. -/
def ask (call : SystemCall) : Sh call.Reply := fun s next => .ask call fun reply => next (.ok reply) s

/-- Ends the program. -/
def stop {α : Type} (status : Nat) : Sh α := fun _ _ => .done (status % 256)

/-- Lets a child do something. -/
def fork (child : Sh Nat) : Sh Nat := fun s next =>
  .fork (child s fun
    | .ok status, _ => .done (status % 256)
    | .error _, s => .done (s.status % 256)) fun id => next (.ok id) s

/-- Goes round until there is a result, a number of times at most. -/
def rounds {σ α : Type} (body : σ → Sh (σ ⊕ α)) : Nat → σ → Sh α
  | 0, _ => stop 255
  | n + 1, s => do
    match ← body s with
    | .inl s => rounds body n s
    | .inr a => pure a

/-- Goes round until there is a result. -/
def loop {σ α : Type} (s : σ) (body : σ → Sh (σ ⊕ α)) : Sh α := rounds body Plan.endless s

/-! ## Printing -/

/-- How much is kept before it is written. -/
def printLimit : Nat := 8192

/-- Writes what was printed. -/
def flush : Sh Unit := do
  let s ← get
  if s.printed.isEmpty then return
  set { s with printed := [], printedSize := 0 }
  match ← ask (.write 1 s.printed.reverse.flatten) with
  | .ok _ => pure ()
  | .error _ => modify fun s => { s with isMute := true }

/-- Prints. -/
def print (text : Bytes) : Sh Unit := do
  modify fun s => { s with printed := text :: s.printed, printedSize := s.printedSize + text.length }
  if printLimit ≤ (← get).printedSize then flush

/-- Prints to the errors. -/
def complain (text : Bytes) : Sh Unit := do
  let _ ← ask (.write 2 text)

/-- A message with the name of the shell, the line, and the command of the shell that is run. -/
def warn (text : Bytes) : Sh Unit := do
  let s ← get
  let where_ := s.name ++ bytesOf ": " ++ Bytes.ofNat s.errorLine ++ bytesOf ": "
  let command := match s.command with
    | some c => c ++ bytesOf ": "
    | none => []
  complain (where_ ++ command ++ text ++ ['\n'])

/-- A message, and an error. -/
def fail {α : Type} (text : Bytes) : Sh α := do
  warn text
  flush
  modify fun s => { s with status := 2 }
  raise .error

/-- A message and an error, from a text of this program. -/
def failWith {α : Type} (text : String) : Sh α := fail (bytesOf text)

/-- Whether an option is on. -/
def option (letter : Char) : Sh Bool := return (← get).options.contains letter

/-! ## Variables -/

/-- The value of a variable. -/
def value? (name : Bytes) : Sh (Option Bytes) := do
  let s ← get
  return (s.vars.lookup name).bind (·.value)

/-- Replaces a variable, or takes it away. -/
def putVariable (name : Bytes) (v : Option Variable) : Sh Unit :=
  modify fun s =>
    if s.vars.any (·.1 == name) then
      { s with vars := s.vars.filterMap fun p => if p.1 == name then v.map (name, ·) else some p }
    else { s with vars := s.vars ++ (v.map (name, ·)).toList }

/-- Follows a change of a variable that the shell itself uses. -/
def noteChange (name : Bytes) (value : Option Bytes) : Sh Unit := do
  if name == bytesOf "OPTIND" then
    let index := ((value.bind Bytes.toNat?).getD 1)
    modify fun s => { s with optionIndex := if index < 1 then 1 else index, optionOffset := none }
  else if name == bytesOf "PATH" then modify fun s => { s with hashed := [] }

/-- Sets a variable, or takes its value. -/
def setVariable (name : Bytes) (value : Option Bytes) (exports : Bool) : Sh Unit := do
  if !isName name then fail (name ++ bytesOf ": bad variable name")
  let s ← get
  let old := s.vars.lookup name
  if old.any (·.isFixed) then fail (name ++ bytesOf ": is read only")
  let isExported := exports || old.any (·.isExported) || s.options.contains 'a'
  if value.isNone && !isExported then putVariable name none
  else putVariable name (some { value, isExported })
  noteChange name value

/-- Sets a variable. -/
def assign (name value : Bytes) : Sh Unit := setVariable name (some value) false

/-- Puts a variable aside until a function, or a command, ends. -/
def keep (k : Kept) : Sh Unit :=
  modify fun s => match s.locals with
    | frame :: frames => { s with locals := (k :: frame) :: frames }
    | [] => s

/-- Brings back what was put aside, down to a number of levels. -/
def restoreTo (levels : Nat) : Sh Unit := do
  let s ← get
  let frames := s.locals.take (s.locals.length - levels)
  set { s with locals := s.locals.drop frames.length }
  for k in frames.flatten do
    match k with
    | .variable name old =>
      putVariable name old
      noteChange name (old.bind (·.value))
    | .options old => modify fun s => { s with options := old }

/-- In which row of a table a name stands. -/
def row (rows : Nat) (name : Bytes) : Nat :=
  match name with
  | [] => 0
  | c :: _ => (name.foldl (fun sum d => sum + d.toNat) (16 * c.toNat)) % rows

/-- The variables that are given to other programs, row by row. -/
def environment : Sh (List (Bytes × Bytes)) := do
  let exported := (← get).vars.filterMap fun (name, v) =>
    if v.isExported then v.value.map (name, ·) else none
  return exported.mergeSort fun a b => row 39 a.1 ≤ row 39 b.1

end Sh

namespace Shell

/-- How a command is run. -/
structure Manner where
  /-- Nothing comes after it in this program. -/
  isLast : Bool := false
  /-- Its failure is taken note of. -/
  isTested : Bool := false
  deriving DecidableEq, Repr, Inhabited

/-- What runs commands and texts of commands. -/
structure Runner where
  run : Manner → Tree → Sh Nat
  runText : Manner → Bytes → Sh Nat

end Shell
end Frontier
