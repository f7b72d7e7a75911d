import Frontier.Prover.Basic
import Frontier.Statement
import Frontier.Text.Occurs

/-!
# The cued prover

A prover whose behaviour can be steered in every respect: starts and answers can be scripted, and an answer
that is not is made by rules that words in the statements steer. Its events are due at given moments, and are
heard in the order of the queue, so that a late one holds up those behind it. An exit takes effect when it is
due, heard or not.
-/

namespace Frontier
open Text

/-- Something in the queue of a cued prover. -/
inductive Cue where
  | output (text : String)
  | complaint (line : String)
  /-- The process exits. -/
  | exit (code : Option Int)
  /-- An exit is announced that does not happen. -/
  | ghost (code : Option Int)
  /-- The session says once that there is nothing more to hear. -/
  | close
  deriving DecidableEq, Repr

/-- What is heard of a cue. -/
def Cue.event? : Cue → Option Event
  | .output text => some (.output text)
  | .complaint line => some (.complaint line)
  | .exit code | .ghost code => some (.exited code false)
  | .close => none

/-- Cues, each with its delay after the one before. -/
abbrev CueList := List (Nat × Cue)

/-- How a start goes. -/
structure StartScript where
  delay : Nat := 0
  fault : Option Fault := none
  /-- The state that the process starts in, if not the usual one. -/
  marker : Option Nat := none
  /-- Whether the startup marker is not waited for. -/
  lazy : Bool := false
  cues : CueList := []
  deriving Repr, Inhabited

/-- How a command goes. -/
inductive Script where
  | fails (f : Fault)
  | cues (cs : CueList)
  /-- By the rules. -/
  | usual
  deriving Repr, Inhabited

/-- How a cued prover behaves. -/
structure Manner where
  /-- The tag of its markers. -/
  tag : String := "check"
  /-- How an undo command begins. -/
  undoCommand : String := "undo "
  rejectsUndo : Bool := false
  /-- The state that is reported after every undo. -/
  undoReport : Option Nat := none
  /-- Whether it goes on after an error. -/
  keepsGoing : Bool := false
  /-- The delay of an answer. -/
  delay : Nat := 0
  /-- The delay of the answer to each statement, if they come one by one. -/
  pace : Option Nat := none
  /-- How long it goes on after it was stopped. -/
  linger : Nat := 0
  deriving Repr, Inhabited

/-- The state of a cued prover. -/
structure Cued where
  manner : Manner := {}
  /-- The usual state number at a start. -/
  initialId : Nat := 0
  attached : Bool := false
  exited : Bool := false
  /-- The number of the present or last session. -/
  session : Nat := 0
  /-- The state number. -/
  id : Nat := 0
  /-- Cues with the moments when they are due. -/
  queue : List (Nat × Cue) := []
  startScripts : List StartScript := []
  scripts : List Script := []
  /-- The start that was begun. -/
  starting : StartScript := {}
  starts : Nat := 0
  /-- How often an attached process was stopped. -/
  stops : Nat := 0
  /-- All commands since the list was last cleared. -/
  sent : List String := []
  /-- Exit notices that were not taken yet. -/
  notices : List ExitNotice := []
  deriving Repr, Inhabited

namespace Cued

/-- How many exit notices are kept for a reader. -/
def noticeCapacity : Nat := 16

/-- Publishes an exit of the present session. -/
def publish (p : Cued) (code : Option Int) (expected : Bool) : Cued :=
  let notices := p.notices ++ [⟨.ofNat p.session, code, expected⟩]
  { p with notices := notices.drop (notices.length - noticeCapacity) }

/-- Publishes exits with codes from 0 on. -/
def publishMany (p : Cued) (count : Nat) : Cued :=
  (List.range count).foldl (fun p (code : Nat) => p.publish (some (code : Int)) false) p

/-- The code of the first exit that is due. -/
def dueExit? (now : Nat) (queue : List (Nat × Cue)) : Option (Option Int) :=
  queue.findSome? fun (due, cue) =>
    match cue with
    | .exit code => if due ≤ now then some code else none
    | _ => none

/-- Notices an exit that is due. -/
def notice (now : Nat) (p : Cued) : Cued :=
  if p.attached && !p.exited then
    match dueExit? now p.queue with
    | some code => ({ p with exited := true } : Cued).publish code false
    | none => p
  else p

/-- The moments when cues are due, the first counted from a moment. -/
def dueFrom (moment : Nat) : CueList → List (Nat × Cue)
  | [] => []
  | (delay, cue) :: rest => (moment + delay, cue) :: dueFrom (moment + delay) rest

/-- Puts cues into the queue. -/
def emit (now : Nat) (cues : CueList) (p : Cued) : Cued := { p with queue := p.queue ++ dueFrom now cues }

/-- Whether a process is there. -/
def alive (p : Cued) : Bool := p.attached && !p.exited

/-- Stops the process, if one is attached. -/
def stop (now : Nat) (p : Cued) : Cued :=
  let p := p.notice now
  if !p.attached then p
  else
    let p := { p with stops := p.stops + 1 }
    let p := if p.exited then p else p.publish (some 0) true
    { p with attached := false, queue := [] }

/-- Begins a start. -/
def beginStart (now : Nat) (p : Cued) : Cued × Nat :=
  let p := p.stop now
  let script := p.startScripts.head?.getD {}
  ({ p with starts := p.starts + 1, startScripts := p.startScripts.tail, starting := script }, now + script.delay)

/-- Ends the start that was begun. -/
def endStart (now : Nat) (p : Cued) : Cued × Except Fault Greeting :=
  match p.starting.fault with
  | some f => (p, .error f)
  | none =>
    let id := p.starting.marker.getD p.initialId
    let p := { p with attached := true, exited := false, session := p.session + 1, queue := [], id }
    (p.emit now p.starting.cues, .ok { marker := if p.starting.lazy then none else some ⟨id, "check"⟩ })

/-- The line that marks a state. -/
def markerLine (p : Cued) (id : Nat) : String := (Marker.mk id p.manner.tag).render ++ "\n"

/-- The state that a command asks to be restored. -/
def undoTarget? (p : Cued) (text : String) : Option Nat :=
  (after? p.manner.undoCommand.toList (trim text.toList)).bind fun rest =>
    readSignedWord (trim (trimEnd (· == '.') rest))

/-- Restores a state, or refuses to. -/
def undo (p : Cued) (target : Nat) : Cued × CueList :=
  if p.manner.rejectsUndo || p.id < target then
    (p, [(p.manner.delay, .output (s!"[error-0-0-0-4]cannot undo to {target}\n" ++ p.markerLine p.id))])
  else ({ p with id := target }, [(p.manner.delay, .output (p.markerLine (p.manner.undoReport.getD target)))])

/-- An answer in the making: the cues so far, and what has been printed since then. -/
structure Draft where
  cues : CueList := []
  chunk : String := ""

/-- Makes a cue of what has been printed. -/
def Draft.flush (d : Draft) (delay : Nat) : Draft :=
  if d.chunk.isEmpty then d else { cues := d.cues ++ [(delay, .output d.chunk)] }

/-- The state after an accepted statement. -/
def nextId (id : Nat) (has : String → Bool) : Nat :=
  if has "jump" then id + 5
  else if has "back" then id - 1
  else if has "stay" then id
  else id + 1

/-- Takes the statements of a command. -/
def execute (p : Cued) (d : Draft) : List Statement → Cued × CueList
  | [] => (p, (d.flush p.manner.delay).cues)
  | s :: rest =>
    let has (word : String) : Bool := occurs word.toList s.text.toList
    if has "crash" then (p, (d.flush p.manner.delay).cues ++ [(1, .exit (some 139))])
    else if has "hang" then (p, (d.flush p.manner.delay).cues)
    else if has "mute" then p.execute d rest
    else
      let d :=
        if has "warn" then
          let d := d.flush p.manner.delay
          { d with cues := d.cues ++ [(0, .complaint ("warning: " ++ s.text))] }
        else d
      if has "fail" then
        let printed := "[error-1-0-1-4]cannot prove: " ++ s.text ++ "\n" ++ p.markerLine p.id
        let d := { d with chunk := d.chunk ++ printed }
        if p.manner.keepsGoing then p.execute d rest else (p, (d.flush p.manner.delay).cues)
      else
        let id := nextId p.id has
        let echo := if has "quiet" then "" else "+ " ++ s.text ++ "\n"
        let line := p.markerLine id
        let d := { d with chunk := d.chunk ++ echo ++ line ++ if has "twice" then line else "" }
        let d := match p.manner.pace with
          | some pace => d.flush pace
          | none => d
        ({ p with id } : Cued).execute d rest

/-- The answer to a command by the rules. -/
def respond (p : Cued) (text : String) : Cued × CueList :=
  match p.undoTarget? text with
  | some target => p.undo target
  | none => p.execute {} (Statement.all text)

/-- Takes a command. -/
def send (now : Nat) (text : String) (p : Cued) : Cued × Except Fault Unit :=
  let p := p.notice now
  if !p.alive then (p, .error .notRunning)
  else
    let script := p.scripts.head?.getD .usual
    let p := { p with sent := p.sent ++ [text], scripts := p.scripts.tail }
    match script with
    | .fails f => (p, .error f)
    | .cues cues => (p.emit now cues, .ok ())
    | .usual =>
      let (p, cues) := p.respond text
      (p.emit now cues, .ok ())

/-- When the wait for the next event will be over. -/
def wakes (p : Cued) : Option Nat :=
  if !p.attached then some 0
  else match p.queue with
    | (due, _) :: _ => some due
    | [] => if p.exited then some 0 else none

/-- Ends the wait for the next event. -/
def deliver (now : Nat) (p : Cued) : Cued × Option Event :=
  let p := p.notice now
  match p.attached, p.queue with
  | true, (_, cue) :: rest => ({ p with queue := rest }, cue.event?)
  | _, _ => (p, none)

/-- Takes the events at the head of the queue that are due. -/
def drain (now : Nat) (p : Cued) : Cued × List Event :=
  let p := p.notice now
  let isDue (c : Nat × Cue) : Bool := c.1 ≤ now
  ({ p with queue := p.queue.dropWhile isDue }, (p.queue.takeWhile isDue).filterMap fun c => c.2.event?)

instance : Prover Cued where
  running now p :=
    let p := p.notice now
    (p, p.alive)
  stop := stop
  halt now limit p := (p.stop now, now + min limit p.manner.linger)
  beginStart := beginStart
  endStart := endStart
  drain := drain
  send := send
  await := notice
  wakes := wakes
  deliver := deliver
  abandon p := p
  load p := p.queue.length + 1
  notice := notice
  exits p := ({ p with notices := [] }, p.notices)

end Cued
end Frontier
