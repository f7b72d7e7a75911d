import Frontier.Dialogue
import Frontier.Outline
import Frontier.UndoLog

/-!
# The engine

The engine keeps one document and one prover in step. Statements up to an offset, the end of the verified
region, have been accepted by the prover; the undo log knows the prover's states that belong to them.
-/

namespace Frontier

/-- What a host may ask the engine to do. -/
inductive Intent where
  /-- Verify the next statement. -/
  | stepForward
  /-- Take back the last statement. -/
  | stepBackward
  /-- Move the verified region to the statement at a cursor. -/
  | goToCursor (cursor : Nat)
  /-- Start the prover anew and verify the same region again. -/
  | recover
  /-- Take back everything after an edit. -/
  | retract (edit : Nat)
  /-- Stop the prover and take back everything. -/
  | reset
  deriving DecidableEq, Repr, Inhabited

namespace Intent

/-- What is going on while an intent is carried out. -/
def activity : Intent → Activity
  | .stepForward | .goToCursor _ => .stepping
  | .stepBackward | .retract _ | .reset => .retracting
  | .recover => .recovering

/-- What its transaction is begun for. -/
def reason : Intent → Reason
  | .stepForward => .stepForward
  | .stepBackward => .stepBackward
  | .goToCursor _ => .goToCursor
  | .recover => .recovery
  | .retract _ => .retraction
  | .reset => .reset

end Intent

/-- The engine's knowledge. -/
structure Engine where
  settings : Settings
  rules : Rules
  document : String := ""
  version : Int := 0
  outline : Outline := {}
  undo : UndoLog
  /-- The end of the verified region. -/
  offset : Nat := 0
  /-- How many statements are verified. -/
  proved : Nat := 0
  activity : Activity := .idle
  /-- Whether a command is outstanding, or was given up while the prover may still be at work on it. -/
  inFlight : Bool := false
  transactions : TransactionLog := {}
  /-- Whether the process has not shown any marker yet. -/
  startupPending : Bool := false
  /-- The last answer, as it is published. -/
  lastOutput : String := ""
  deriving DecidableEq, Repr, Inhabited

/-- A dialogue that reads and changes the engine, and may fail. What was changed before a failure stays so. -/
abbrev Act (α : Type) := ExceptT Fault (StateT Engine Dialogue) α

namespace Act
variable {α : Type}

/-- Asks one question. -/
def ask (q : Query) : Act q.Reply := (Dialogue.query q : Dialogue q.Reply)

/-- Carries out an act and turns its failure into a value. -/
def attempt (act : Act α) : Act (Except Fault α) := ExceptT.mk (do return .ok (← act.run))

/-- Goes on unless something failed. -/
def orFail : Except Fault α → Act α
  | .ok a => pure a
  | .error fault => throw fault

end Act

namespace Engine

/-- An engine with no document and no process. -/
def ofSettings (s : Settings) : Except Fault Engine :=
  s.rules.map fun rules => { settings := s, rules, undo := .startingAt rules.initialId }

/-- Takes a new version of the document. -/
def setDocument (e : Engine) (document : String) (version : Int) : Engine :=
  { e with document, version, outline := (e.outline.update document version).1 }

/-- What the host is told about the status. -/
def status (e : Engine) : Dialogue Status := do
  let running : Bool ← Dialogue.query .running
  return ⟨e.activity, e.offset, e.proved, e.undo.valid, running && !e.inFlight⟩

/-- Whether a process is attached and free to take a command. -/
def ready : Act Bool := do
  let running : Bool ← Act.ask .running
  return running && !(← get).inFlight

end Engine
end Frontier
