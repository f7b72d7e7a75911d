import Frontier.Engine.Basic

/-!
# Submitting a command

At most one command is outstanding. What the prover had to tell before a command is sent is passed on to the
host first. A failure that leaves the prover's position unknown keeps the way closed, puts the undo log out of
order and stops the process, so that the next operation begins with a recovery.
-/

namespace Frontier.Engine

/-- Takes what was heard before a command. A marker in it was the startup prompt, so that the command's
answer begins with the first marker after it. An exit ends the attempt. -/
def takeStale (c : Counter) : List Event → Act Counter
  | [] => pure c
  | .output chunk :: rest => do
    Act.ask (.publish (.rawOutput chunk))
    takeStale (if (Marker.find chunk).isEmpty then c else {}) rest
  | .complaint line :: rest => do
    Act.ask (.publish (.rawOutput line))
    takeStale c rest
  | .exited code _ :: _ => throw (.exited code)

/-- Sends a command and hears its answer. -/
def exchange (text : String) (x : Exchange) : Act Counter := do
  Act.orFail (← Act.ask (.send text))
  let heard : Transcript ← Act.ask (.listen x)
  Act.orFail (x.conclude x.begin heard)

/-- A round trip, if no command is outstanding. -/
def roundTrip (text : String) (expected : Nat) : Act Response := do
  let e ← get
  if e.inFlight then throw .commandInFlight
  let fresh : Counter := if e.startupPending then .awaiting e.rules.initialId else {}
  let counter ← takeStale fresh (← Act.ask .drain)
  modify ({ · with inFlight := true })
  let x : Exchange := ⟨e.rules, expected, counter, e.settings.quiet expected, e.settings.commandTimeout⟩
  match ← (exchange text x).attempt with
  | .ok counter =>
    modify ({ · with inFlight := false })
    return .ofCounter e.rules counter
  | .error fault =>
    if !fault.losesPosition then modify ({ · with inFlight := false })
    throw fault

/-- Submits a command that is answered by a number of markers. -/
def submit (text : String) (expected : Nat) : Act Response := do
  match ← (roundTrip text expected).attempt with
  | .ok response =>
    modify fun e => { e with
      startupPending := e.startupPending && response.segments.isEmpty
      lastOutput := response.display }
    return response
  | .error fault =>
    if fault.losesPosition then
      modify fun e => { e with undo := e.undo.invalidate (.positionLost fault.message) }
      Act.ask .stop
    throw fault

end Frontier.Engine
