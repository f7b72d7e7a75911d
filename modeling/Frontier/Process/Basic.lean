import Frontier.Exchange
import Frontier.Framer
import Frontier.Process.Program
import Frontier.Report

/-!
# Processes

A process is a running program with what has been read from it: output in frames, errors by lines, and its end. It
runs on its own clock, and only as far as somebody waits for it. What it has left in the background may print after
its end. Nothing is assumed about the program: a program of any kind can be run.
-/

namespace Frontier
open Text

/-- How a process came to its end. -/
structure Ending where
  moment : Nat
  /-- None if a signal ended it. -/
  code : Option Int
  /-- Whether it had been asked to stop. -/
  expected : Bool
  deriving DecidableEq, Repr, Inhabited

/-- A running program. -/
structure Process (σ : Type) where
  session : Uuid
  program : σ
  /-- The earliest moment of its next step, in ticks. -/
  clock : Nat
  /-- Whether it has been asked to stop. -/
  stopping : Bool := false
  /-- When it will be killed. -/
  killAt : Option Nat := none
  framer : Framer := {}
  /-- The bytes of an error line that is not complete yet. -/
  line : List UInt8 := []
  /-- The streams on which nothing more is heard. -/
  silent : List Stream := []
  /-- When its errors will be given up: they are, soon after the first line that is no text. -/
  hangUpAt : Option Nat := none
  /-- What was read and not asked for yet. -/
  heard : List Event := []
  ending : Option Ending := none

namespace Process

/-- The complete lines of a stream that has begun with `line`, and what follows them. -/
def cutLines (line : List UInt8) : List UInt8 → List (List UInt8) × List UInt8
  | [] => ([], line)
  | b :: rest =>
    if b == 0x0A then
      let (lines, last) := cutLines [] rest
      (line :: lines, last)
    else cutLines (line ++ [b]) rest

/-- A line without the return before its end. -/
def withoutReturn (line : List UInt8) : List UInt8 :=
  if line.getLast? == some 0x0D then line.dropLast else line

/-- The lines up to the first that is no text, and whether all of them are text. -/
def texts : List (List UInt8) → List String × Bool
  | [] => ([], true)
  | line :: rest =>
    match Utf8.strict? line with
    | some chars =>
      let (lines, all) := texts rest
      (String.ofList chars :: lines, all)
    | none => ([], false)

variable {σ : Type}

/-- Whether the process has ended. -/
def ended (p : Process σ) : Bool := p.ending.isSome

/-- Whether nothing more will be heard of the process. -/
def isOver (p : Process σ) : Bool := p.ended && [Stream.output, Stream.errors].all p.silent.contains

/-- How many bytes of output are read at once. -/
def pieceSize : Nat := 8192

/-- Reads output, piece by piece; every step of `fuel` reads a piece. -/
def readOutput : (fuel : Nat) → List UInt8 → Process σ → Process σ
  | 0, _, p | _ + 1, [], p => p
  | fuel + 1, bytes, p =>
    let (framer, text) := p.framer.push (bytes.take pieceSize)
    readOutput fuel (bytes.drop pieceSize) { p with framer, heard := p.heard ++ (text.map Event.output).toList }

/-- How long it takes until errors that are no text are given up. -/
def hangUpDelay : Nat := 300

/-- Reads errors. -/
def readErrors (bytes : List UInt8) (p : Process σ) : Process σ :=
  let (lines, line) := cutLines p.line bytes
  let (complaints, all) := texts (lines.map withoutReturn)
  let p := { p with line, heard := p.heard ++ complaints.map .complaint }
  if all then p else { p with silent := .errors :: p.silent, hangUpAt := some (p.clock + hangUpDelay) }

/-- Nothing more comes on a stream: what was held back is heard. -/
def closeStream (s : Stream) (p : Process σ) : Process σ :=
  match s with
  | .output =>
    let (framer, rest) := p.framer.flush
    { p with framer, heard := p.heard ++ (rest.map Event.output).toList, silent := .output :: p.silent }
  | .errors =>
    let last := if p.line.isEmpty then [] else (texts [p.line]).1
    { p with line := [], heard := p.heard ++ last.map .complaint, silent := .errors :: p.silent }

/-- Notices a sign of the program at a moment. -/
def notices (moment : Nat) (p : Process σ) : Sign → Process σ
  | .wrote s bytes =>
    if p.silent.contains s then p
    else match s with
      | .output => p.readOutput (bytes.length + 1) bytes
      | .errors => p.readErrors bytes
  | .closed s => if p.silent.contains s then p else p.closeStream s
  | .ended code => { p with
      heard := p.heard ++ [.exited code p.stopping], ending := some ⟨moment, code, p.stopping⟩ }

/-- Notices what came out of a step at a moment. -/
def after (p : Process σ) (moment : Nat) (result : List Sign × σ) : Process σ :=
  { result.1.foldl (notices moment) { p with program := result.2 } with clock := moment + 1 }

/-- The notice of the process's end. -/
def notice? (p : Process σ) : Option ExitNotice := p.ending.map fun e => ⟨p.session, e.code, e.expected⟩

variable [Program σ]

/-- Asks the process to stop, by closing its input, and sets the moment when it is killed. -/
def stop (p : Process σ) (kill : Nat) : Process σ :=
  { p with stopping := true, program := Program.endInput p.program, killAt := some kill }

/-- The moment of the next thing that happens to the process; none if it waits for something from outside. -/
def due? (p : Process σ) : Option Nat :=
  let soonest (a b : Option Nat) : Option Nat :=
    match a, b with
    | some a, some b => some (min a b)
    | a, b => a.or b
  (soonest (if p.ended then none else p.killAt) (soonest p.hangUpAt (Program.due? p.program))).map (max p.clock)

/-- What happens to the process at a moment. -/
def step (p : Process σ) (moment : Nat) : Process σ :=
  if !p.ended && p.killAt.any (· ≤ moment) then
    { p with killAt := none }.after moment (Program.kill p.program)
  else if p.hangUpAt.any (· ≤ moment) then
    { p with hangUpAt := none }.after moment ([], Program.ignore .errors p.program)
  else p.after moment (Program.step moment p.program)

/-- Runs until there is enough, nothing more can happen, or a moment has come. -/
def run (limit : Nat) (enough : Process σ → Bool) (p : Process σ) : Process σ :=
  if p.isOver || enough p then p
  else match p.due? with
    | none => { p with clock := max p.clock limit }
    | some moment =>
      if moment < limit then
        let q := p.step moment
        if _later : p.clock < q.clock ∧ p.clock < limit then q.run limit enough else q
      else { p with clock := max p.clock limit }
termination_by limit - p.clock
decreasing_by
  have later : p.clock < (p.step moment).clock ∧ p.clock < limit := _later
  omega

/-- Runs up to a moment. -/
def runTo (limit : Nat) (p : Process σ) : Process σ := p.run limit fun _ => false

/-- Writes to the process's input, as fast as it makes room, up to a moment; tells whether all of it was taken. -/
def write (limit : Nat) (bytes : List UInt8) (p : Process σ) : Process σ × Bool :=
  match bytes with
  | [] => (p, true)
  | b :: rest =>
    let room := Program.room p.program
    if !Program.listens p.program then (p, false)
    else if _some : 0 < room then
      ({ p with program := Program.feed ((b :: rest).take room) p.program } : Process σ).write limit ((b :: rest).drop room)
    else
      let q := p.run limit fun q => 0 < Program.room q.program || !Program.listens q.program
      if _later : p.clock < q.clock ∧ p.clock < limit then q.write limit (b :: rest) else (q, false)
termination_by (limit - p.clock, bytes.length)
decreasing_by
  · refine Prod.Lex.right _ ?_
    simp only [List.length_drop, List.length_cons]
    have : 0 < Program.room p.program := _some
    omega
  · refine Prod.Lex.left _ _ ?_
    have later : p.clock < (p.run limit fun q => 0 < Program.room q.program || !Program.listens q.program).clock ∧
      p.clock < limit := _later
    omega

end Process
end Frontier
