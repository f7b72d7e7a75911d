import Frontier.Dialogue
import Frontier.Process.Basic
import Frontier.Text.Quoted

/-!
# Sessions

A session owns one process at a time. It starts it and waits for its startup prompt, sends it commands, listens
to it, and stops it: first by closing its input, and after a while by force. A process that was left may live on
for that while; its end is noticed all the same. Times are in ticks unless they are said to be in milliseconds.
-/

namespace Frontier
open Text

/-- A session. -/
structure Session (σ : Type) where
  settings : Settings
  /-- The home directory of the user. -/
  home : String
  now : Nat := 0
  /-- How many processes have been launched. -/
  launched : Nat := 0
  /-- The process that the session is attached to. -/
  current : Option (Process σ) := none
  /-- Processes that were left and have not ended. -/
  retired : List (Process σ) := []
  /-- Exit notices since the last that was taken. -/
  notices : List ExitNotice := []

/-- What a start has shown so far. -/
inductive Startup where
  /-- No marker yet: the banner and the complaints. -/
  | pending (banner complaints : String)
  /-- The startup marker, and what came after it. -/
  | ready (marker : Marker) (banner : String) (rest : List Event)
  /-- The process has exited first. -/
  | gone (code : Option Int) (complaints : String)
  deriving DecidableEq, Repr, Inhabited

namespace Startup

/-- What some events show, after a banner and complaints. -/
def of (banner complaints : String) : List Event → Startup
  | [] => .pending banner complaints
  | .output text :: rest =>
    match (Marker.find text).head? with
    | some marker => .ready marker (banner ++ Marker.strip text) rest
    | none => of (banner ++ text) complaints rest
  | .complaint line :: rest => of banner (complaints ++ line ++ "\n") rest
  | .exited code _ :: _ => .gone code complaints

/-- Whether the start is over. -/
def settled : Startup → Bool
  | .pending .. => false
  | _ => true

/-- How many characters of the complaints a message quotes. -/
def excerptLength : Nat := 500

/-- The complaints as a message quotes them: trimmed, and cut if they are long. -/
def excerpt (complaints : String) : String :=
  let all := trim complaints.toList
  let shown := String.ofList (all.take excerptLength)
  if all.isEmpty then "" else "; stderr: " ++ shown ++ if excerptLength < all.length then "..." else ""

end Startup

/-- What is read from a session. -/
structure Reading where
  output : String := ""
  complaints : List String := []
  exit : Option (Option Int × Bool) := none
  /-- How many markers the output holds. -/
  markers : Nat := 0
  /-- Whether there was nothing more to read. -/
  ended : Bool := false
  deriving DecidableEq, Repr, Inhabited

/-- Adds an event. Output is framed, so that no marker is cut. -/
def Reading.add (r : Reading) : Event → Reading
  | .output text => { r with output := r.output ++ text, markers := r.markers + (Marker.find text).length }
  | .complaint line => { r with complaints := r.complaints ++ [line] }
  | .exited code expected => { r with exit := some (code, expected) }

/-- Whether as many markers were read as are wanted; if no number is given, all there is is wanted. -/
def Reading.enough (wanted : Option Nat) (r : Reading) : Bool := wanted.any (· ≤ r.markers)

/-- Reads a process until there is enough, or there is nothing more, up to a moment. -/
def Process.read {σ : Type} [Program σ] (limit : Nat) (wanted : Option Nat) (p : Process σ) (r : Reading) :
    Process σ × Reading :=
  if r.enough wanted then (p, r)
  else match _h : p.heard with
    | e :: rest => ({ p with heard := rest } : Process σ).read limit wanted (r.add e)
    | [] =>
      let q := p.run limit fun q => !q.heard.isEmpty
      if _later : p.clock < q.clock ∧ p.clock < limit then q.read limit wanted r
      else (q, { r with ended := true })
termination_by (limit - p.clock, p.heard.length)
decreasing_by
  · exact Prod.Lex.right _ (by simp [_h])
  · refine Prod.Lex.left _ _ ?_
    have later : p.clock < (p.run limit fun q => !q.heard.isEmpty).clock ∧ p.clock < limit := _later
    omega

namespace Session
variable {σ : Type}

/-- How long, in milliseconds, one waits for what may never come. -/
def patience : Nat := 60000

/-- The program and its surroundings, for messages. -/
def context (s : Session σ) : String :=
  "program='" ++ s.settings.resolvedProgram s.home ++ "', args=" ++ quotedList s.settings.args ++
    ", working_dir='" ++ s.settings.workingDir.getD "<inherited>" ++ "'"

/-- An exit code as messages about a start show it. -/
def codeText : Option Int → String
  | some code => "Some(" ++ toString code ++ ")"
  | none => "None"

/-- Whether a process is attached that can take input. -/
def running (s : Session σ) : Bool := s.current.any fun p => !p.ended

/-- The identifier of the attached process. -/
def id? (s : Session σ) : Option Uuid := s.current.map (·.session)

/-- A new session with the same settings. -/
def successor (s : Session σ) : Session σ :=
  { settings := s.settings, home := s.home, now := s.now, launched := s.launched }

/-- How many exit notices are kept until they are taken. -/
def noticeCapacity : Nat := 16

/-- The exit notices that were not kept, because too many came after them. -/
def missed (s : Session σ) : List ExitNotice := s.notices.take (s.notices.length - noticeCapacity)

/-- The exit notices that were kept, in order. -/
def kept (s : Session σ) : List ExitNotice := s.notices.drop (s.notices.length - noticeCapacity)

/-- Takes what was read and not asked for. -/
def drain (s : Session σ) : Session σ × List Event :=
  match s.current with
  | none => (s, [])
  | some p => ({ s with current := some { p with heard := [] } }, p.heard)

variable [Program σ]

/-- Leaves the attached process, which is to be killed at a moment. -/
def leave (s : Session σ) (kill : Nat) : Session σ :=
  match s.current with
  | none => s
  | some p => { s with current := none, retired := if p.ended then s.retired else s.retired ++ [p.stop kill] }

/-- Stops the attached process without waiting. -/
def stop (s : Session σ) : Session σ := s.leave (s.now + ticks s.settings.stopGrace)

/-- Gives the session up: its process is killed at once. -/
def drop (s : Session σ) : Session σ := s.leave s.now

/-- Lets time pass up to a moment: processes run, and their ends are noticed in order. The attached process has run up
to there already. -/
def passWith (s : Session σ) (current : Option (Process σ)) (moment : Nat) : Session σ :=
  let retired := s.retired.map (·.run moment Process.ended)
  let left := if s.running then current.filter (·.ended) else none
  let ends := (left.toList ++ retired.filter (·.ended)).mergeSort fun p q =>
    (p.ending.map (·.moment)).getD 0 ≤ (q.ending.map (·.moment)).getD 0
  { s with
    now := max s.now moment
    current
    retired := retired.filter fun p => !p.ended
    notices := s.notices ++ ends.filterMap Process.notice? }

/-- Lets time pass up to a moment. -/
def passTo (s : Session σ) (moment : Nat) : Session σ := s.passWith (s.current.map (·.runTo moment)) moment

/-- Waits for the startup prompt of the process `p`. A process that does not show it is not kept. -/
def awaitPrompt (s : Session σ) (p : Process σ) : Session σ × Except Fault Greeting :=
  let shown (p : Process σ) := Startup.of "" "" p.heard
  let deadline := s.now + ticks s.settings.startupTimeout
  let p := p.run deadline fun p => (shown p).settled
  let s := s.passWith (some p) (min p.clock deadline)
  match shown p with
  | .ready marker banner rest => ({ s with current := some { p with heard := rest } }, .ok ⟨some marker, banner⟩)
  | .gone code complaints => (s.leave s.now, .error (.communication
      ("Prover exited before printing its startup prompt (" ++ s.context ++ ", code: " ++ codeText code ++ ")" ++
        Startup.excerpt complaints)))
  | .pending .. => (s.leave s.now, .error (.timeout s.settings.startupTimeout))

/-- Starts a process, after the attached one has been stopped. -/
def start (s : Session σ) : Session σ × Except Fault Greeting :=
  let s := s.stop
  match (Program.launch ⟨s.settings.resolvedProgram s.home, s.settings.args, s.settings.workingDir, s.home⟩
    s.now : Except LaunchError σ) with
  | .error e => (s, .error (.communication
      ("Failed to spawn prover subprocess (" ++ s.context ++ "): " ++ e.message)))
  | .ok program =>
    let p : Process σ := { session := .ofNat s.launched, program, clock := s.now }
    let s := { s with launched := s.launched + 1, current := some p }
    if s.settings.awaitStartup then s.awaitPrompt p else (s, .ok ⟨none, ""⟩)

/-- Stops the attached process and waits, no longer than a limit in milliseconds, for its end; then it is
killed. -/
def halt (s : Session σ) (limit : Nat) : Session σ :=
  let kill := s.now + ticks limit
  match s.current.filter fun p => !p.ended with
  | none => s.stop
  | some p => (s.leave kill).passTo ((p.stop kill).run (kill + 2) Process.ended).clock

/-- Stops the attached process, waits for its end, and starts a new one. -/
def restart (s : Session σ) : Session σ × Except Fault Greeting := (s.halt s.settings.stopWait).start

/-- Sends a command, as a line, and waits until the process has room for it. -/
def send (s : Session σ) (text : String) : Session σ × Except Fault Unit :=
  match s.current with
  | none => (s, .error .notRunning)
  | some p =>
    if p.ended then (s, .error .notRunning)
    else
      let line := if text.toList.getLast? == some '\n' then text else text ++ "\n"
      let limit := s.now + ticks patience
      let (p, taken) := p.write limit line.toUTF8.toList
      (s.passWith (some p) (min p.clock limit),
        if taken then .ok () else .error (.communication "Failed to send command to prover: Broken pipe (os error 32)"))

/-- Reads until as many markers have come as are wanted, or there is nothing more to read. -/
def read (s : Session σ) (wanted : Option Nat) : Session σ × Reading :=
  match s.current with
  | none => (s, { ended := !(({} : Reading).enough wanted) })
  | some p =>
    let limit := s.now + ticks patience
    let (p, reading) := p.read limit wanted {}
    (s.passWith (some p) (min p.clock limit), reading)

/-- Lets time pass until there is an exit notice, if there is none yet. -/
def awaitNotice (s : Session σ) : Session σ :=
  if s.notices.isEmpty then
    let soonest (limit : Nat) (p : Process σ) : Nat :=
      let p := p.run limit Process.ended
      if p.ended then min limit p.clock else limit
    s.passTo ((s.retired ++ s.current.toList.filter fun p => !p.ended).foldl soonest (s.now + ticks patience))
  else s

/-- Waits for the next exit notice. -/
def notice (s : Session σ) : Session σ × Option ExitNotice :=
  let s := s.awaitNotice
  ({ s with notices := s.kept.tail }, s.kept.head?)

end Session
end Frontier
