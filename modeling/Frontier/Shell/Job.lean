import Frontier.Shell.State

/-!
# Children of a shell

A shell lets children run commands, and waits for those that are not in the background. A child is a shell of its
own: it forgets the traps and the jobs of its parent.
-/

namespace Frontier.Shell

/-- The status by which an end is known. -/
def statusOf : TaskEnd → Nat
  | .exited status => status
  | .killed signal => 128 + signal

/-- A child that was ended by a signal is mentioned. -/
def mention : TaskEnd → Sh Unit
  | .exited _ => pure ()
  | .killed signal =>
    if signal == Signal.interrupt || signal == Signal.pipe then pure ()
    else Sh.complain (Signal.describe signal ++ ['\n'])

/-- Takes note of the signals that have come. -/
def takeNote : Sh Unit := do
  let caught ← Sh.ask .caught
  if !caught.isEmpty then
    modify fun s => { s with caught := s.caught.filter (fun signal => !caught.contains signal) ++ caught }

/-- Takes note of a child that has ended. -/
def noteEnd (child : Nat) (outcome : TaskEnd) : Sh Unit :=
  modify fun s => { s with jobs := s.jobs.map fun job =>
    { job with members := job.members.map fun m => if m.1 == child then (child, some outcome) else m } }

/-- Takes note of all children that have ended by now. -/
def noteEnds : Sh Unit := do
  if (← get).jobs.any fun job => job.members.any (·.2.isNone) then
    Sh.loop () fun _ => do
      match ← Sh.ask (.wait none false) with
      | .ended child outcome =>
        noteEnd child outcome
        return .inl ()
      | _ => return .inr ()

/-- Waits for children, and gives the status of the last one. -/
def awaitChildren (children : List Nat) : Sh Nat := do
  let ended ← Sh.loop ([] : List (Nat × TaskEnd)) fun ended => do
    if children.all fun child => ended.any (·.1 == child) then return .inr ended
    match ← Sh.ask (.wait none true) with
    | .ended child outcome =>
      if children.contains child then
        mention outcome
        return .inl ((child, outcome) :: ended)
      else
        noteEnd child outcome
        return .inl ended
    | .interrupted => return .inl ended
    | _ => return .inr ended
  noteEnds
  return ((children.getLast?.bind fun child => ended.lookup child).map statusOf).getD 0

/-- Forgets a job that somebody was told of, to make place for another. -/
def makePlace : Sh Unit :=
  modify fun s => { s with jobs := match s.jobs.find? (·.isTold) with
    | some job => s.jobs.filter (·.number != job.number)
    | none => s.jobs }

/-- Notes children that run in the background. -/
def noteJob (children : List Nat) : Sh Unit :=
  modify fun s =>
    let number := ((List.range (s.jobs.length + 1)).find? fun n => !s.jobs.any (·.number == n + 1)).getD 0 + 1
    { s with
      jobs := s.jobs ++ [{ number, members := children.map (·, none) }]
      background := children.getLast?.or s.background }

/-- Whether all children of a job have ended. -/
def Job.isOver (job : Job) : Bool := job.members.all (·.2.isSome)

/-- The status of a job. -/
def Job.status (job : Job) : Nat := ((job.members.getLast?.bind (·.2)).map statusOf).getD 0

/-- Takes back the descriptors that redirections have put aside, down to a number of levels; `keeps` leaves the new
ones. -/
def unwindTo (levels : Nat) (keeps : Bool) : Sh Unit := do
  let s ← get
  let frames := s.saved.take (s.saved.length - levels)
  set { s with saved := s.saved.drop frames.length }
  for (descriptor, old) in frames.flatten do
    match old with
    | none =>
      if !keeps then
        let _ ← Sh.ask (.close descriptor)
    | some copy =>
      if !keeps then
        let _ ← Sh.ask (.replace copy descriptor)
      let _ ← Sh.ask (.close copy)

/-- What `exit` has asked for takes effect. -/
def settleStatus (byExit : Bool) : Sh Unit :=
  modify fun s => { s with
    status := if byExit then s.asked.getD s.status else s.status
    asked := none, skip := .nothing, loops := 0 }

/-- The end of a shell: what it was to do at the end is done, and its status is given. -/
def leave (r : Runner) (how : Option Raise) : Sh Nat := do
  settleStatus (how == some .exit)
  unwindTo 0 false
  let s ← get
  match s.traps.lookup 0 with
  | some (c :: action) =>
    let status := s.status
    set { s with traps := s.traps.filter (·.1 != 0), asked := some status }
    match ← Sh.attempt (r.runText {} (c :: action)) with
    | .ok _ => modify fun s => { s with status }
    | .error e => settleStatus (e == .exit)
    unwindTo 0 false
  | _ => pure ()
  Sh.flush
  return (← get).status

/-- The whole life of a shell that does something. -/
def live (r : Runner) (act : Sh Nat) : Sh Nat := do
  match ← Sh.attempt act with
  | .ok _ => leave r none
  | .error e => leave r (some e)

/-- What a shell forgets when it becomes a child. -/
def becomeChild : Sh Unit := do
  let s ← get
  for (signal, action) in s.traps do
    if signal != 0 && !action.isEmpty then
      let _ ← Sh.ask (.provide signal .standard)
  set { s with
    traps := s.traps.filter (·.2.isEmpty), caught := [], jobs := [], skip := .nothing, loops := 0, saved := []
    isRoot := false, printed := [], printedSize := 0, asked := none }

/-- Lets a child do something as a shell. -/
def forkShell (r : Runner) (act : Sh Nat) : Sh Nat := Sh.fork do
  becomeChild
  live r act

/-- A child in the background does not hear of signals from the keyboard, and has no input if it is the first. -/
def enterBackground (isFirst : Bool) : Sh Unit := do
  let _ ← Sh.ask (.provide Signal.interrupt .ignored)
  let _ ← Sh.ask (.provide Signal.quit .ignored)
  modify fun s => { s with traps := s.traps.filter fun t => t.1 != Signal.interrupt && t.1 != Signal.quit }
  if isFirst then
    let _ ← Sh.ask (.close 0)
    let _ ← Sh.ask (.openFile (bytesOf "/dev/null") { reads := true })

end Frontier.Shell
