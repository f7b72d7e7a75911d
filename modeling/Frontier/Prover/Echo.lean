import Frontier.Prover.Basic
import Frontier.Statement
import Frontier.Text.Occurs

/-!
# The echo prover

The simplest prover that speaks the protocol. It accepts every statement, echoes it and raises its state number
by one, but rejects one that contains `fail`, with the rest of its command, and dies of one that contains
`crash`. `undo N.` restores state `N`. Answers can be scripted instead.

Its events have delays that begin when the event is taken from the queue to be waited for; an event whose wait
is given up is lost.
-/

namespace Frontier
open Text

/-- What a wait for the echo prover's next event will bring. -/
inductive Echo.Wait where
  /-- An event, at a moment. -/
  | event (due : Nat) (e : Event)
  /-- Nothing: a live process with an empty queue stays silent, whatever is queued later. -/
  | silence
  /-- The end, at once. -/
  | nothing
  deriving DecidableEq, Repr

/-- The state of an echo prover. -/
structure Echo where
  running : Bool := false
  /-- The number of the present or last session. -/
  session : Nat := 0
  /-- The state number. -/
  id : Nat := 0
  /-- Events with their delays. -/
  queue : List (Nat × Event) := []
  /-- All commands since the list was last cleared. -/
  sent : List String := []
  starts : Nat := 0
  /-- Whether undo commands are rejected. -/
  rejectsUndo : Bool := false
  /-- Whether the startup prompt is printed only after a start. -/
  lazy : Bool := false
  /-- The answers to the next commands. -/
  scripts : List (List (Nat × Event)) := []
  waiting : Option Echo.Wait := none
  /-- Exit notices that were not taken yet. -/
  notices : List ExitNotice := []
  deriving DecidableEq, Repr

namespace Echo

/-- The line that marks a state. -/
def markerLine (id : Nat) : String := (Marker.mk id "check").render ++ "\n"

/-- How many exit notices are kept for a reader. -/
def noticeCapacity : Nat := 16

/-- Publishes an exit of the present session. -/
def publish (p : Echo) (code : Int) (expected : Bool) : Echo :=
  let notices := p.notices ++ [⟨.ofNat p.session, some code, expected⟩]
  { p with notices := notices.drop (notices.length - noticeCapacity) }

/-- Adds an event at the end of the queue. -/
def queueUp (p : Echo) (delay : Nat) (e : Event) : Echo := { p with queue := p.queue ++ [(delay, e)] }

/-- The state that a command asks to be restored. -/
def undoTarget? (text : String) : Option Nat :=
  (after? "undo ".toList (trim text.toList)).bind fun rest => readSignedWord (trim (trimEnd (· == '.') rest))

/-- Restores a state, or refuses to. -/
def undo (p : Echo) (target : Nat) : Echo :=
  if p.rejectsUndo || p.id < target then
    p.queueUp 0 (.output (s!"[error-0-0-0-4]cannot undo to {target}\n" ++ markerLine p.id))
  else ({ p with id := target } : Echo).queueUp 0 (.output (markerLine target))

/-- The process dies of a statement. -/
def die (p : Echo) : Echo :=
  (({ p with running := false } : Echo).queueUp 1 (.exited (some 139) false)).publish 139 false

/-- Takes the statements of a command; `chunk` is what was printed for those before. -/
def execute (p : Echo) (chunk : String) : List Statement → Echo
  | [] => p.queueUp 0 (.output chunk)
  | s :: rest =>
    if occurs "crash".toList s.text.toList then
      (if chunk.isEmpty then p else p.queueUp 0 (.output chunk)).die
    else if occurs "fail".toList s.text.toList then
      p.queueUp 0 (.output (chunk ++ "[error-1-0-1-4]cannot prove: " ++ s.text ++ "\n" ++ markerLine p.id))
    else
      ({ p with id := p.id + 1 } : Echo).execute (chunk ++ "+ " ++ s.text ++ "\n" ++ markerLine (p.id + 1)) rest

/-- Answers a command. -/
def respond (p : Echo) (text : String) : Echo :=
  match undoTarget? text with
  | some target => p.undo target
  | none => p.execute "" (Statement.all text)

/-- Takes a command, if the process runs. -/
def send (p : Echo) (text : String) : Echo × Except Fault Unit :=
  if !p.running then (p, .error .notRunning)
  else
    let p := { p with sent := p.sent ++ [text] }
    match p.scripts with
    | script :: rest => ({ p with scripts := rest, queue := p.queue ++ script }, .ok ())
    | [] => (p.respond text, .ok ())

/-- Starts a process. One that still runs is not stopped. -/
def start (p : Echo) : Echo × Greeting :=
  let p := { p with running := true, session := p.session + 1, id := 0, starts := p.starts + 1, queue := [] }
  if p.lazy then (p.queueUp 0 (.output ("banner\n" ++ markerLine 0)), { marker := none })
  else (p, { marker := some ⟨0, "check"⟩ })

/-- Stops the process, if it runs. -/
def stop (p : Echo) : Echo :=
  if p.running then ({ p with running := false, queue := [] } : Echo).publish 0 true else p

/-- Kills the process from outside. -/
def crash (p : Echo) (code : Int) : Echo :=
  (({ p with running := false } : Echo).queueUp 0 (.exited (some code) false)).publish code false

/-- Begins to wait for the next event. -/
def await (now : Nat) (p : Echo) : Echo :=
  match p.queue with
  | (delay, e) :: rest => { p with queue := rest, waiting := some (.event (now + delay) e) }
  | [] => { p with waiting := some (if p.running then .silence else .nothing) }

/-- When the wait will be over. -/
def wakes (p : Echo) : Option Nat :=
  match p.waiting with
  | some (.event due _) => some due
  | some .silence => none
  | some .nothing | none => some 0

/-- Ends the wait. -/
def deliver (p : Echo) : Echo × Option Event :=
  ({ p with waiting := none },
    match p.waiting with
    | some (.event _ e) => some e
    | _ => none)

/-- Takes every event in the queue, whatever its delay. -/
def drain (p : Echo) : Echo × List Event := ({ p with queue := [] }, p.queue.map (·.2))

/-- The undo commands among the commands. -/
def undos (p : Echo) : List String := p.sent.filter fun text => "undo ".toList.isPrefixOf text.toList

instance : Prover Echo where
  running _ p := (p, p.running)
  stop _ p := p.stop
  halt now _ p := (p.stop, now)
  beginStart now p := (p, now)
  endStart _ p :=
    let (p, greeting) := p.start
    (p, .ok greeting)
  drain _ p := p.drain
  send _ text p := p.send text
  await := await
  wakes := wakes
  deliver _ p := p.deliver
  abandon p := { p with waiting := none }
  load p := p.queue.length + 1
  notice _ p := p
  exits p := ({ p with notices := [] }, p.notices)

/-- What is seen of a wait for the next event. -/
inductive Heard where
  | event (e : Event)
  /-- There will be none. -/
  | nothing
  /-- The wait was given up. -/
  | pending
  deriving DecidableEq, Repr

/-- Waits for the next event, with limited patience; also says when the wait ended. An event that comes when
patience ends is still heard. -/
def next (p : Echo) (now patience : Nat) : Echo × Heard × Nat :=
  let p := p.await now
  match p.wakes with
  | some moment =>
    if moment ≤ now + patience then
      let (p, e) := p.deliver
      (p, match e with
        | some e => .event e
        | none => .nothing, max now moment)
    else ({ p with waiting := none }, .pending, now + patience)
  | none => ({ p with waiting := none }, .pending, now + patience)

end Echo
end Frontier
