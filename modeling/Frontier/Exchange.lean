import Frontier.Counter
import Frontier.Settings

/-!
# Exchanges

An exchange is one command with its answer. It is over once the expected markers have come, or an error has,
and the prover has then been quiet for a while: every further output begins that while anew. Until an answer is
complete the exchange is bounded by a timeout. Times are in milliseconds since the command was sent; what
happens at the moment when a wait ends comes before its end.
-/

namespace Frontier
open Text

/-- Something that a prover's session has to tell. -/
inductive Event where
  /-- Text that the prover printed, up to a marker line or to the end. -/
  | output (text : String)
  /-- A line that the prover printed to its error stream. -/
  | complaint (line : String)
  /-- The process has exited; no code when a signal ended it. -/
  | exited (code : Option Int) (expected : Bool)
  deriving DecidableEq, Repr, Inhabited

/-- The text of an event, which is passed on to the host. -/
def Event.text? : Event → Option String
  | .output text => some text
  | .complaint line => some line
  | .exited .. => none

/-- What is heard during an exchange, with its time; `none` when the session has nothing more to tell. -/
abbrev Transcript := List (Nat × Option Event)

/-- The answer to a command. The text as it came is not kept: what is read of an answer are its segments and its
error. -/
structure Response where
  segments : List Segment
  /-- The first error: the index of its segment, and its message. -/
  error : Option (Nat × String)
  deriving DecidableEq, Repr, Inhabited

namespace Response

/-- The first segment with an error, or else the text after the last marker if it holds one. -/
def firstError (rules : Rules) (trailing : String) (index : Nat) : List Segment → Option (Nat × String)
  | [] => (rules.error? trailing).map fun message => (index, message)
  | s :: rest =>
    match rules.error? s.output with
    | some message => some (index, message)
    | none => firstError rules trailing (index + 1) rest

/-- The answer that a counter has collected. -/
def ofCounter (rules : Rules) (c : Counter) : Response := ⟨c.segments, firstError rules c.trailing 0 c.segments⟩

/-- The markers of an answer. -/
def markers (r : Response) : List Marker := r.segments.map (·.marker)

/-- The marker that closed the answer. -/
def last? (r : Response) : Option Marker := r.segments.getLast?.map (·.marker)

/-- The text to publish: the segment with the error, or else the last one. -/
def display (r : Response) : String :=
  let shown := match r.error with
    | some (i, message) => (r.segments[i]?.map (·.output)).getD message
    | none => (r.segments.getLast?.map (·.output)).getD ""
  String.ofList (trim (Marker.strip shown).toList)

end Response

/-- A command that has been sent. -/
structure Exchange where
  rules : Rules
  /-- How many markers answer the command. -/
  expected : Nat
  /-- The counter as the command found it. -/
  counter : Counter
  /-- How long the prover must be quiet after a complete answer. -/
  quiet : Nat
  /-- How long a complete answer may take. -/
  timeout : Nat
  deriving DecidableEq, Repr, Inhabited

/-- How far an exchange has come. -/
structure Listening where
  counter : Counter
  /-- When the exchange ends if nothing more is heard; none before the answer is complete. -/
  quietUntil : Option Nat := none
  deriving DecidableEq, Repr, Inhabited

namespace Exchange

/-- The beginning of an exchange. -/
def begin (x : Exchange) : Listening := ⟨x.counter, none⟩

/-- Whether an answer is complete: the prover gives up the rest of a command after an error. -/
def complete (x : Exchange) (c : Counter) : Bool :=
  x.expected ≤ c.responses || c.segments.any fun s => (x.rules.error? s.output).isSome

/-- When the exchange ends if nothing more is heard. -/
def endsAt (x : Exchange) (l : Listening) : Nat := l.quietUntil.getD x.timeout

/-- How the exchange ends if nothing more is heard. -/
def verdict (x : Exchange) (l : Listening) : Except Fault Counter :=
  if l.quietUntil.isSome then .ok l.counter else .error (.timeout x.timeout)

/-- Accounts for what is heard at a time. -/
def hear (x : Exchange) (l : Listening) (time : Nat) : Option Event → Except Fault Listening
  | some (.output chunk) =>
    let counter := l.counter.feed chunk
    .ok ⟨counter, if x.complete counter then some (time + x.quiet) else l.quietUntil⟩
  | some (.complaint _) => .ok l
  | some (.exited code _) => .error (.exited code)
  | none => .error .notRunning

/-- How the exchange ends if exactly the rest of a transcript is heard. -/
def conclude (x : Exchange) (l : Listening) : Transcript → Except Fault Counter
  | [] => x.verdict l
  | (time, heard) :: rest =>
    if x.endsAt l < time then x.verdict l
    else match x.hear l time heard with
      | .ok l => x.conclude l rest
      | .error fault => .error fault

/-- The texts that are passed on to the host if exactly the rest of a transcript is heard: those heard before
the exchange ends. -/
def passedOn (x : Exchange) (l : Listening) : Transcript → List String
  | [] => []
  | (time, heard) :: rest =>
    if x.endsAt l < time then []
    else (heard.bind Event.text?).toList ++
      match x.hear l time heard with
      | .ok l => x.passedOn l rest
      | .error _ => []

end Exchange
end Frontier
