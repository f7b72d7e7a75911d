import Frontier.Engine.Submit

/-!
# Motion

Forward motion over several statements is one command; if the prover rejects it, what it accepted is undone
and the statements are sent one by one, so that those before the culprit still count. Backward motion is one
undo command, and if that cannot be had, a recovery: the prover is started anew and the document sent again
from its beginning.
-/

namespace Frontier.Engine

/-- Starts a process, at the beginning of the document. -/
def startSession : Act Unit := do
  let greeting : Greeting ← Act.orFail (← Act.ask .start)
  modify fun e => { e with
    inFlight := false
    startupPending := greeting.marker.isNone
    undo := .startingAt ((greeting.marker.map (·.id)).getD e.rules.initialId)
    offset := 0
    proved := 0 }

/-- Stops the process and waits until it is gone. -/
def haltSession : Act Unit := do Act.ask (.halt (← get).settings.stopWait)

/-- Has one statement verified. -/
def executeSingle (s : Statement) : Act Unit := do
  let index := (← get).proved
  modify fun e => { e with undo := e.undo.announce index }
  let response ← submit s.text 1
  if let some (_, message) := response.error then throw (.rejected message)
  modify fun e => { e with
    undo := match response.last? with
      | some m => (e.undo.acknowledge index m.id).1
      | none => e.undo.invalidate (.noMarker index)
    proved := e.proved + 1
    offset := s.stop }

/-- What came of a batch. -/
inductive BatchResult where
  | accepted
  /-- An error came, and this is the prover's state after it. -/
  | rejected (state : Nat)
  deriving DecidableEq, Repr

/-- The text of a batch: its statements on lines of their own. -/
def batchText (ss : List Statement) : String := String.intercalate "\n" (ss.map (·.text))

/-- Has several statements verified by one command. -/
def executeBatch (ss : List Statement) : Act BatchResult := do
  let response ← submit (batchText ss) ss.length
  if response.error.isSome then
    return .rejected ((response.last?.map (·.id)).getD (← get).undo.current)
  modify fun e => { e with
    undo := (e.undo.acknowledgeBatch e.proved ss.length (response.markers.map (·.id))).1
    proved := e.proved + ss.length
    offset := (ss.getLast?.map (·.stop)).getD e.offset }
  return .accepted

/-- Undoes what the prover accepted of a rejected batch, from its state back to the state before the batch.
Only that very state in the answer proves it done: a marker left over from the batch may come instead. -/
def rewindBatch (before state : Nat) : Act Bool := do
  if state = before then return true
  let e ← get
  if !e.undo.valid then return false
  match ← (submit (e.rules.undo before) 1).attempt with
  | .error _ => return false
  | .ok response =>
    if response.error.isNone && response.last?.any (·.id == before) then
      modify fun e => { e with undo := e.undo.undone e.proved before }
      return true
    else return false

/-- Has the statements verified one by one that do not lie in the verified region; the first failure ends
it. -/
def replay : List Statement → Act Unit
  | [] => pure ()
  | s :: rest => do
    if (← get).offset < s.stop then executeSingle s
    replay rest

/-- Starts the prover anew, and has the verified region and further statements verified. -/
def restartAndReplay (ss : List Statement) : Act Unit := do
  let e ← get
  let all := e.outline.upTo e.offset ++ ss
  haltSession
  startSession
  replay all

/-- Has statements verified that follow the verified region. -/
def forwardThrough : List Statement → Act Unit
  | [s] => executeSingle s
  | ss => do
    let before := (← get).undo.current
    match ← (executeBatch ss).attempt with
    | .ok .accepted => pure ()
    | .ok (.rejected state) =>
      if ← rewindBatch before state then replay ss else restartAndReplay ss
    | .error fault => if fault.losesPosition then restartAndReplay ss else throw fault

/-- Starts the prover anew and verifies the document up to a target. -/
def recoverTo (target : Nat) : Act Unit := do
  modify ({ · with activity := .recovering })
  haltSession
  startSession
  let ss := (← get).outline.upTo target
  if !ss.isEmpty then forwardThrough ss

/-- Undoes back to a target by one command; says whether that was done. -/
def tryUndo (target : Nat) : Act Bool := do
  let e ← get
  if !e.undo.valid then return false
  if e.inFlight then return false
  let running : Bool ← Act.ask .running
  if !running then return false
  if e.undo.size ≠ e.proved then
    modify fun e => { e with undo := e.undo.invalidate (.countMismatch e.undo.size e.proved) }
    return false
  let kept := e.outline.countUpTo target
  match e.undo.undoTarget? e.proved kept with
  | none => return false
  | some state =>
    match ← (submit (e.rules.undo state) 1).attempt with
    | .error _ => return false
    | .ok response =>
      if response.error.isSome then return false
      modify fun e => { e with
        undo := e.undo.undone kept ((response.last?.map (·.id)).getD state)
        proved := kept
        offset := target }
      return true

/-- Moves the end of the verified region back to a target. -/
def backwardTo (target : Nat) : Act Unit := do
  if target < (← get).offset then
    if !(← tryUndo target) then recoverTo target

/-- Makes sure that a process is ready at the end of the verified region. -/
def ensureSession : Act Unit := do
  if !(← ready) then
    let target := (← get).offset
    if target = 0 then startSession
    else
      recoverTo target
      let offset := (← get).offset
      if offset < target then throw (.stoppedShort offset target)

end Frontier.Engine
