import Frontier.Counter
import Frontier.Json.Record
import Frontier.Report
import Frontier.Statement
import Frontier.UndoLog

/-!
# Reports as JSON

The JSON form of everything that a host is told.
-/

namespace Frontier
open Json (Form members member member? fields? need may named? pick?)
open Json.Form (encode decode?)

instance : Form Statement where
  encode s := members [member "text" s.text, member "start_offset" s.start, member "end_offset" s.stop]
  decode? j := do
    match ← fields? ["text", "start_offset", "end_offset"] j with
    | [text, start, stop] => some ⟨← need text, ← need start, ← need stop⟩
    | _ => none

instance : Form Marker where
  encode m := members [member "sequence_id" m.id, member "mode_tag" m.tag]
  decode? j := do
    match ← fields? ["sequence_id", "mode_tag"] j with
    | [id, tag] => some ⟨← need id, ← need tag⟩
    | _ => none

instance : Form Segment where
  encode s := members [member "output" s.output, member "marker" s.marker]
  decode? j := do
    match ← fields? ["output", "marker"] j with
    | [output, marker] => some ⟨← need output, ← need marker⟩
    | _ => none

instance : Form UndoLog.Snapshot where
  encode s := members [member "current_state_id" s.current, member "pre_state_id_by_statement_index" s.before,
    member "valid" s.valid, member? "invalid_reason" s.reason]
  decode? j := do
    match ← fields? ["current_state_id", "pre_state_id_by_statement_index", "valid", "invalid_reason"] j with
    | [current, before, valid, reason] => some ⟨← need current, ← need before, ← need valid, ← may reason⟩
    | _ => none

instance : Form Reason where
  encode r := encode r.name
  decode? := named? Reason.name Reason.all

instance : Form Transaction where
  encode t := members [member "id" t.id, member "reason" t.reason]
  decode? j := do
    match ← fields? ["id", "reason"] j with
    | [id, reason] => some ⟨← need id, ← need reason⟩
    | _ => none

instance : Form Activity where
  encode a := encode a.name
  decode? := named? Activity.name Activity.all

instance : Form Outcome where
  encode o := members [member "success" o.success, member? "error" o.error, member? "execution_offset" o.offset]
  decode? j := do
    match ← fields? ["success", "error", "execution_offset"] j with
    | [success, error, offset] => some ⟨← need success, ← may error, ← may offset⟩
    | _ => none

instance : Form Status where
  encode s := members [member "state" s.activity, member "execution_offset" s.offset,
    member "statements_proved" s.proved, member "tracker_valid" s.undoValid, member "session_running" s.running]
  decode? j := do
    match ← fields? ["state", "execution_offset", "statements_proved", "tracker_valid", "session_running"] j with
    | [activity, offset, proved, valid, running] =>
      some ⟨← need activity, ← need offset, ← need proved, ← need valid, ← need running⟩
    | _ => none

instance : Form Uuid where
  encode u := .text u.chars
  decode?
    | .text s => Uuid.parse? s
    | _ => none

instance : Form Timestamp where
  encode t := .text t.chars
  decode?
    | .text s => Timestamp.parse? s
    | _ => none

instance : Form ExitNotice where
  encode n := members [member "session_id" n.session, member "code" n.code, member "expected" n.expected]
  decode? j := do
    match ← fields? ["session_id", "code", "expected"] j with
    | [session, code, expected] => some ⟨← need session, ← may code, ← need expected⟩
    | _ => none

instance : Form Publication where
  encode p := members [member "transaction_id" p.transaction, member "reason" p.reason,
    member "success" p.success, member? "error" p.error, member "output" p.output,
    member "statements_proved" p.proved, member "execution_offset" p.offset, member "timestamp" p.time]
  decode? j := do
    match ← fields? ["transaction_id", "reason", "success", "error", "output", "statements_proved",
      "execution_offset", "timestamp"] j with
    | [transaction, reason, success, error, output, proved, offset, time] =>
      some ⟨← need transaction, ← need reason, ← need success, ← may error, ← need output, ← need proved,
        ← need offset, ← need time⟩
    | _ => none

namespace Notification

/-- The kinds of notifications. -/
inductive Kind where
  | offsetChanged
  | proofState
  | rawOutput
  | processExited
  deriving DecidableEq, Repr

/-- The name of a kind. -/
def Kind.name : Kind → String
  | .offsetChanged => "execution_offset_changed"
  | .proofState => "proof_state"
  | .rawOutput => "raw_output"
  | .processExited => "process_exited"

/-- Every kind. -/
def Kind.all : List Kind := [.offsetChanged, .proofState, .rawOutput, .processExited]

instance : Form Kind where
  encode k := encode k.name
  decode? := named? Kind.name Kind.all

/-- The kind of a notification. -/
def kind : Notification → Kind
  | .offsetChanged .. => .offsetChanged
  | .proofState _ => .proofState
  | .rawOutput _ => .rawOutput
  | .processExited .. => .processExited

/-- What a notification says. -/
def data : Notification → Json
  | .offsetChanged offset proved => members [member "offset" offset, member "statements_proved" proved]
  | .proofState p => encode p
  | .rawOutput text => members [member "text" text]
  | .processExited session code restart =>
    members [member "session_id" session, member "code" code, member "restart_available" restart]

/-- The members of an object; an array is none. -/
def object? (keys : List String) : Json → Option (List (Option Json))
  | .object ms => pick? keys ms
  | _ => none

/-- Reads what a notification of a kind says. -/
def ofData? (kind : Kind) (j : Json) : Option Notification :=
  match kind with
  | .offsetChanged => do
    match ← object? ["offset", "statements_proved"] j with
    | [offset, proved] => some (.offsetChanged (← need offset) (← need proved))
    | _ => none
  | .proofState => (decode? j).map .proofState
  | .rawOutput => do
    match ← object? ["text"] j with
    | [text] => some (.rawOutput (← need text))
    | _ => none
  | .processExited => do
    match ← object? ["session_id", "code", "restart_available"] j with
    | [session, code, restart] => some (.processExited (← need session) (← may code) (← need restart))
    | _ => none

mutual

/-- Whether a value holds only text that can be kept, in at most `depth` levels. -/
def keepable (depth : Nat) : Json → Bool
  | .broken => false
  | .array xs => 0 < depth && keepableItems (depth - 1) xs
  | .object ms => 0 < depth && keepableMembers (depth - 1) ms
  | _ => true

/-- Whether the items of an array can be kept. -/
def keepableItems (depth : Nat) : List Json → Bool
  | [] => true
  | x :: xs => keepable depth x && keepableItems depth xs

/-- Whether the members of an object can be kept. -/
def keepableMembers (depth : Nat) : List (List Char × Json) → Bool
  | [] => true
  | (_, x) :: ms => keepable depth x && keepableMembers depth ms

end

/-- A name that was kept may be marked by an empty object instead of null. -/
def settleName : Json → Json
  | .object [(k, .object [])] => .object [(k, .null)]
  | j => j

/-- Kept data, with the names in it as they are usually read. -/
def settle : Json → Json
  | .array xs => .array (xs.map settleName)
  | .object ms => .object (ms.map fun (k, x) => (k, settleName x))
  | j => j

/-- The data as they can be read. If they stand before the kind, they have to be kept until it is known, in at
most 126 levels. -/
def dataInOrder? (ms : List (List Char × Json)) (data : Json) : Option Json :=
  match ms.find? fun m => m.1 == "type".toList || m.1 == "data".toList with
  | some m => if m.1 == "type".toList then some data else if keepable 126 data then some (settle data) else none
  | none => some data

end Notification

instance : Form Notification where
  encode n := members [member "type" n.kind, ("data", some n.data)]
  decode? j := do
    match ← fields? ["type", "data"] j with
    | [kind, some data] =>
      let data ← match j with
        | .object ms => Notification.dataInOrder? ms data
        | _ => some data
      Notification.ofData? (← need kind) data
    | _ => none

end Frontier
