import Frontier.Engine.Motion

/-!
# Carrying out an intent

Every intent runs in one transaction, and its result is published when it ends: first the new end of the
verified region, if it has changed, then the outcome.
-/

namespace Frontier.Engine

/-- Verifies the next statement, if there is one. A recovery on the way may leave less verified than before. -/
def stepForward : Act Unit := do
  let e ← get
  if (e.outline.next? e.offset).isSome then
    ensureSession
    let e ← get
    match e.outline.next? e.offset with
    | some s => executeSingle s
    | none => pure ()

/-- Takes back the last statement, if there is one. -/
def stepBackward : Act Unit := do
  let e ← get
  if e.offset ≠ 0 then backwardTo (e.outline.previousEnd e.offset)

/-- Moves the end of the verified region to the boundary that a cursor selects. -/
def goToCursor (cursor : Nat) : Act Unit := do
  let e ← get
  let target := e.outline.boundaryAt cursor
  if target < e.offset then
    modify ({ · with activity := .retracting })
    backwardTo target
  else if e.offset < target then
    ensureSession
    let e ← get
    let ss := e.outline.within e.offset target
    if !ss.isEmpty then forwardThrough ss

/-- Takes back the statements that an edit touches. -/
def retract (edit : Nat) : Act Unit := do
  let e ← get
  if edit < e.offset then backwardTo (e.outline.boundaryUpTo edit)

/-- Stops the prover and takes everything back. -/
def reset : Act Unit := do
  haltSession
  modify fun e => { e with
    inFlight := false
    undo := .startingAt e.rules.initialId
    offset := 0
    proved := 0
    lastOutput := ""
    outline := (e.outline.clear.update e.document e.version).1 }

/-- What is done for an intent. -/
def act : Intent → Act Unit
  | .stepForward => stepForward
  | .stepBackward => stepBackward
  | .goToCursor cursor => goToCursor cursor
  | .recover => do recoverTo (← get).offset
  | .retract edit => retract edit
  | .reset => reset

/-- Begins a transaction. -/
def begin (i : Intent) : StateT Engine Dialogue Transaction :=
  modifyGet fun e =>
    let (transactions, t) := e.transactions.begin i.reason
    (t, { e with outline := (e.outline.update e.document e.version).1, activity := i.activity, transactions })

/-- Ends a transaction and publishes its result; `start` is where the verified region ended before it. -/
def finish (t : Transaction) (start : Nat) (result : Except Fault Unit) : StateT Engine Dialogue Outcome := do
  let (transactions, newest) := (← get).transactions.finish t
  modify ({ · with activity := .idle, transactions })
  let e ← get
  let error := match result with
    | .ok () => none
    | .error fault => some fault.message
  if e.offset ≠ start then Dialogue.query (.publish (.offsetChanged e.offset e.proved))
  if newest then
    let time : Timestamp ← Dialogue.query .time
    Dialogue.query (.publish (.proofState
      ⟨t.id, t.reason, error.isNone, error, e.lastOutput, e.proved, e.offset, time⟩))
  return match error with
    | none => .done e.offset
    | some message => .failure message e.offset

/-- Carries out an intent. -/
def performing (i : Intent) : StateT Engine Dialogue Outcome := do
  let start := (← get).offset
  let t ← begin i
  finish t start (← (act i).run)

/-- Carries out an intent. -/
def perform (e : Engine) (i : Intent) : Dialogue (Outcome × Engine) := (performing i).run e

/-- Stops the prover for good. -/
def shutdown (e : Engine) : Dialogue Engine := do
  Dialogue.query (.halt e.settings.stopWait)
  return { e with inFlight := false }

end Frontier.Engine
