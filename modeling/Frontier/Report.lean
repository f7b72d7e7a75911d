import Frontier.Transaction
import Frontier.Timestamp
import Frontier.Uuid

/-!
# Reports to the host

What a host is told: the outcome of each of its requests, the status, and the notifications that are sent as
things happen. Offsets are byte offsets into the document.
-/

namespace Frontier

/-- What is going on. -/
inductive Activity where
  | idle
  /-- Forward motion. -/
  | stepping
  /-- Backward motion. -/
  | retracting
  /-- A new start and replay. -/
  | recovering
  deriving DecidableEq, Repr, Inhabited

/-- The name of an activity. -/
def Activity.name : Activity → String
  | .idle => "idle"
  | .stepping => "stepping"
  | .retracting => "retracting"
  | .recovering => "recovering"

/-- Every activity. -/
def Activity.all : List Activity := [.idle, .stepping, .retracting, .recovering]

/-- The outcome of a request. -/
structure Outcome where
  success : Bool
  error : Option String
  /-- Where the verified region ends; none if the request was turned away. -/
  offset : Option Nat
  deriving DecidableEq, Repr, Inhabited

namespace Outcome

/-- The wording of a refusal. -/
def busyMessage : String := "Prover is busy with another operation"

/-- A request that was met, with the region it left. -/
def done (offset : Nat) : Outcome := ⟨true, none, some offset⟩

/-- A request that failed, with the region it left. -/
def failure (error : String) (offset : Nat) : Outcome := ⟨false, some error, some offset⟩

/-- A request that was turned away because another one is being met. -/
def busy : Outcome := ⟨false, some busyMessage, none⟩

/-- Whether a request was turned away. -/
def isBusy (o : Outcome) : Bool := !o.success && o.offset.isNone

end Outcome

/-- What a host may ask for at any time. -/
structure Status where
  activity : Activity
  offset : Nat
  /-- How many statements are verified. -/
  proved : Nat
  /-- Whether the undo log may be trusted. -/
  undoValid : Bool
  running : Bool
  deriving DecidableEq, Repr, Inhabited

/-- The result of one operation. -/
structure Publication where
  transaction : Nat
  reason : Reason
  success : Bool
  error : Option String
  /-- The last response, without markers. -/
  output : String
  proved : Nat
  offset : Nat
  time : Timestamp
  deriving DecidableEq, Repr, Inhabited

/-- What a host is told unasked. -/
inductive Notification where
  /-- The verified region has changed. -/
  | offsetChanged (offset proved : Nat)
  /-- An operation has ended. -/
  | proofState (p : Publication)
  /-- The prover has printed something. -/
  | rawOutput (text : String)
  /-- The prover has exited without being asked to. -/
  | processExited (session : Uuid) (code : Option Int) (restartAvailable : Bool)
  deriving DecidableEq, Repr, Inhabited

/-- A session's process has exited. -/
structure ExitNotice where
  session : Uuid
  /-- None when a signal ended it. -/
  code : Option Int
  /-- Whether it was asked to. -/
  expected : Bool
  deriving DecidableEq, Repr, Inhabited

/-- The host is told of an exit unless it was asked for. -/
def ExitNotice.notification? (n : ExitNotice) : Option Notification :=
  if n.expected then none else some (.processExited n.session n.code true)

end Frontier
