import Frontier.Fault
import Frontier.Pattern.Parser
import Frontier.Text.Number

/-!
# Settings

How the prover is started, how long its answers may take, and the two rules that its texts follow: the undo
command, which names a state at `{id}`, and the pattern that marks a response as an error.
-/

namespace Frontier
open Text

/-- Everything that may be set. Times are in milliseconds. -/
structure Settings where
  /-- The prover's program; a tilde stands for the home directory. -/
  program : String := "easycrypt"
  args : List String := ["cli", "-emacs"]
  /-- The directory the prover works in, if not the current one. -/
  workingDir : Option String := none
  /-- How long a command may take. -/
  commandTimeout : Nat := 60000
  /-- How long the startup prompt may take. -/
  startupTimeout : Nat := 10000
  /-- How long the prover must be quiet after a single statement. -/
  singleQuiet : Nat := 50
  /-- How long the prover must be quiet after a batch. -/
  batchQuiet : Nat := 200
  /-- How long a stopped prover may go on before it is killed. -/
  stopGrace : Nat := 1000
  /-- How long to wait for a stopped prover before it is killed. -/
  stopWait : Nat := 3000
  /-- The state number of the startup prompt. -/
  initialId : Nat := 0
  /-- Whether a start waits for the startup prompt. -/
  awaitStartup : Bool := true
  undoCommand : String := "undo \x7bid\x7d."
  errorPattern : String := "\\[error-[^\\]]*\\]"
  /-- Whether to log commands and output. -/
  verbose : Bool := false
  deriving DecidableEq, Repr, Inhabited

/-- The rules of the prover's texts, read from the settings. -/
structure Rules where
  errors : Pattern
  undoCommand : List Char
  initialId : Nat
  deriving DecidableEq, Repr, Inhabited

namespace Rules

/-- Puts a text in every place that a template marks with `{id}`. -/
def fill (value : List Char) : List Char → List Char
  | '\x7b' :: 'i' :: 'd' :: '\x7d' :: rest => value ++ fill value rest
  | c :: rest => c :: fill value rest
  | [] => []

/-- Whether a template marks a place. -/
def hasPlace : List Char → Bool
  | '\x7b' :: 'i' :: 'd' :: '\x7d' :: _ => true
  | _ :: rest => hasPlace rest
  | [] => false

/-- The command that restores a state. -/
def undo (r : Rules) (id : Nat) : String := String.ofList (fill (toString id).toList r.undoCommand)

/-- The error that a response reports: its text from the first match of the pattern on, trimmed. -/
def error? (r : Rules) (output : String) : Option String :=
  (r.errors.find? output.toList).map fun found => String.ofList (trim found)

end Rules

/-- What the environment says about the settings. -/
structure Environment where
  program : Option String := none
  args : Option String := none
  workingDir : Option String := none
  timeout : Option String := none
  verbose : Option String := none
  deriving DecidableEq, Repr, Inhabited

namespace Settings

/-- The defaults, as far as the environment does not say otherwise. A timeout that is no number is passed
over; any word but `0` and `false` asks for logs. -/
def ofEnvironment (e : Environment) : Settings :=
  let d : Settings := {}
  { d with
    program := e.program.getD d.program
    args := (e.args.map fun a => (words isBlank a.toList).map String.ofList).getD d.args
    workingDir := e.workingDir
    commandTimeout := (e.timeout.bind (readSignedWord ·.toList)).getD d.commandTimeout
    verbose := e.verbose.any fun v => v != "0" && v.toList.map Char.toLower != ['f', 'a', 'l', 's', 'e'] }

/-- The program, with a leading tilde expanded. -/
def resolvedProgram (s : Settings) (home : String) : String :=
  match s.program.toList with
  | ['~'] => home
  | '~' :: '/' :: rest => home ++ String.ofList ('/' :: rest)
  | _ => s.program

/-- How long the prover must be quiet after a command that expects a number of markers. -/
def quiet (s : Settings) (expected : Nat) : Nat := if expected > 1 then s.batchQuiet else s.singleQuiet

/-- Reads the rules: first the undo command, then the error pattern. -/
def rules (s : Settings) : Except Fault Rules :=
  if Rules.hasPlace s.undoCommand.toList then
    match Pattern.parse? s.errorPattern.toList with
    | some errors => .ok ⟨errors, s.undoCommand.toList, s.initialId⟩
    | none => .error (.badPattern s.errorPattern)
  else .error (.noPlaceholder s.undoCommand)

end Settings
end Frontier
