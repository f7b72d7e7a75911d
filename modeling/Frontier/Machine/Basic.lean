import Frontier.Machine.Files
import Frontier.Process.Program

/-!
# Machines

A machine is what one launched program needs to live in: the program and its children, their descriptors, the
pipes between them, and a tree of files. One step of one program takes a tick of the machine's clock.

Machines stand in for the system outside, so that sessions can be run; no theorem is about them.
-/

namespace Frontier

/-- What an open file leads to. -/
inductive Target where
  /-- An end of a pipe. -/
  | pipe (number : Nat) (writing : Bool)
  /-- A stream that is read outside the machine. -/
  | stream (s : Stream)
  | device (d : Device)
  /-- A plain file of the tree, by the number of its content. -/
  | file (number : Nat) (access : Access)
  | directory (path : Path)
  deriving DecidableEq, Repr, Inhabited

/-- An open file, with the place in it where reading and writing go on. -/
structure Handle where
  target : Target
  offset : Nat := 0
  deriving DecidableEq, Repr, Inhabited

/-- What was written to a pipe and not read yet. -/
structure Pipe where
  front : Bytes := []
  /-- What follows, the latest part first. -/
  back : List Bytes := []
  size : Nat := 0
  deriving DecidableEq, Repr, Inhabited

namespace Pipe

/-- How much a pipe holds. -/
def capacity : Nat := 65536

/-- What fits in. -/
def room (p : Pipe) : Nat := capacity - p.size

/-- Adds bytes at the end. -/
def push (p : Pipe) (bytes : Bytes) : Pipe :=
  { p with back := bytes :: p.back, size := p.size + bytes.length }

/-- Takes up to a number of bytes. -/
def take (p : Pipe) (count : Nat) : Bytes × Pipe :=
  let p := if p.front.isEmpty then { p with front := p.back.reverse.flatten, back := [] } else p
  let taken := p.front.take count
  (taken, { p with front := p.front.drop count, size := p.size - taken.length })

end Pipe

/-- A descriptor: the handle it stands for, and whether it ends when another program takes over. -/
structure Descriptor where
  handle : Nat
  isPrivate : Bool := false
  deriving DecidableEq, Repr, Inhabited

/-- A program in a machine. -/
structure Task where
  id : Nat
  parent : Nat
  /-- What it does from now on; it stands before a call that takes time. -/
  routine : Routine
  /-- The earliest moment of its next step. -/
  wake : Nat
  descriptors : List (Nat × Descriptor)
  /-- The directory in which its paths begin. -/
  place : Path
  provisions : List (Nat × Provision) := []
  /-- Signals that were caught and not taken yet. -/
  caught : List Nat := []
  /-- Whether a signal was caught while it waited. -/
  roused : Bool := false
  stopped : Bool := false
  /-- The signal that ends it, and the moment when that takes effect. -/
  doom : Option (Nat × Nat) := none
  outcome : Option TaskEnd := none
  deriving Inhabited

/-- A signal is caught. -/
def Task.catches (t : Task) (signal : Nat) : Task :=
  { t with caught := if t.caught.contains signal then t.caught else t.caught ++ [signal], roused := true }

/-- The lowest descriptor from `low` on that a program does not have. -/
def Task.freeDescriptor (t : Task) (low : Nat) : Nat :=
  ((List.range (t.descriptors.length + 1)).find? fun n => !t.descriptors.any (·.1 == low + n)).getD 0 + low

/-- A machine. -/
structure Machine where
  clock : Nat
  tasks : List Task
  handles : List (Nat × Handle)
  pipes : List (Nat × Pipe)
  files : Files
  /-- The number of the next handle or pipe. -/
  fresh : Nat
  /-- The number of the next task. -/
  nextTask : Nat
  /-- Whether more may come to its input. -/
  inputOpen : Bool := true
  /-- The streams that nobody reads any more. -/
  unheard : List Stream := []
  /-- What was seen outside since the last look, latest first. -/
  signs : List Sign := []
  deriving Inhabited

namespace Machine

/-- The number of the program that was launched. -/
def firstTask : Nat := 4711

/-- The pipe that is written to from outside. -/
def inputPipe : Nat := 0

variable (m : Machine)

/-- The program with a number. -/
def task? (id : Nat) : Option Task := m.tasks.find? (·.id == id)

/-- Changes the program with a number. -/
def update (id : Nat) (f : Task → Task) : Machine :=
  { m with tasks := m.tasks.map fun t => if t.id == id then f t else t }

/-- Whether a program is there and has not ended. -/
def lives (id : Nat) : Bool := (m.task? id).any (·.outcome.isNone)

/-- The handle of a descriptor of a program. -/
def handleOf? (t : Task) (descriptor : Nat) : Option (Nat × Handle) :=
  (t.descriptors.lookup descriptor).bind fun d => (m.handles.lookup d.handle).map (d.handle, ·)

/-- What a descriptor of a program leads to. -/
def target? (t : Task) (descriptor : Nat) : Option Target := (m.handleOf? t descriptor).map (·.2.target)

/-- Whether some program holds a handle. -/
def isHeld (handle : Nat) : Bool := m.tasks.any fun t => t.descriptors.any fun d => d.2.handle == handle

/-- Whether some program holds a file that leads to a target. -/
def reaches (target : Target) : Bool :=
  m.handles.any fun (n, h) => h.target == target && m.isHeld n

/-- Whether more may come through a pipe. -/
def hasWriter (pipe : Nat) : Bool :=
  pipe == inputPipe && m.inputOpen || m.reaches (.pipe pipe true)

/-- Whether what is written to a pipe may still be read. -/
def hasReader (pipe : Nat) : Bool := m.reaches (.pipe pipe false)

/-- The pipe with a number. -/
def pipe (number : Nat) : Pipe := (m.pipes.lookup number).getD {}

/-- Replaces a pipe. -/
def setPipe (number : Nat) (p : Pipe) : Machine :=
  { m with pipes := (number, p) :: m.pipes.filter (·.1 != number) }

/-- Replaces a handle. -/
def setHandle (number : Nat) (h : Handle) : Machine :=
  { m with handles := m.handles.map fun p => if p.1 == number then (number, h) else p }

/-- Forgets handles that no program holds, and pipes without ends. -/
def tidy : Machine :=
  let handles := m.handles.filter fun (n, _) => m.isHeld n
  let known (pipe : Nat) : Bool := pipe == inputPipe || handles.any fun (_, h) =>
    h.target == .pipe pipe true || h.target == .pipe pipe false
  { m with handles, pipes := m.pipes.filter fun (n, _) => known n }

/-- Gives a program a descriptor. -/
def setDescriptor (id descriptor : Nat) (d : Descriptor) : Machine :=
  m.update id fun t => { t with descriptors := (descriptor, d) :: t.descriptors.filter (·.1 != descriptor) }

/-- Takes a descriptor from a program. -/
def dropDescriptor (id descriptor : Nat) : Machine :=
  (m.update id fun t => { t with descriptors := t.descriptors.filter (·.1 != descriptor) }).tidy

/-- Opens a file for a program, at its lowest free descriptor. -/
def install (t : Task) (h : Handle) : Machine × Nat :=
  let descriptor := Task.freeDescriptor t 0
  let m := { m with handles := (m.fresh, h) :: m.handles, fresh := m.fresh + 1 }
  (m.setDescriptor t.id descriptor ⟨m.fresh - 1, false⟩, descriptor)

/-- Whether a stream can still be written to. -/
def speaks (s : Stream) : Bool := m.reaches (.stream s)

/-- Something is seen outside. -/
def shows (sign : Sign) : Machine := { m with signs := sign :: m.signs }

/-- A program is told that a child has ended, if it wants to know. -/
def tellParent (parent : Nat) : Machine :=
  m.update parent fun t =>
    if t.outcome.isNone && t.provisions.lookup Signal.child == some .caught then t.catches Signal.child else t

/-- A program ends: what it held is let go, its children go to nobody, and its parent may ask how it ended. -/
def finish (id : Nat) (outcome : TaskEnd) : Machine :=
  let m := m.update id fun t =>
    { t with outcome := some outcome, doom := none, descriptors := [], routine := .done 0, stopped := false }
  let kept := m.tasks.filterMap fun t =>
    if t.parent == id then (if t.outcome.isSome then none else some { t with parent := 1 })
    else if t.id == id && !m.lives t.parent && id != firstTask then none
    else some t
  let parent := ((m.task? id).map (·.parent)).getD 0
  (({ m with tasks := kept } : Machine).tellParent parent).tidy

/-- How many ticks a signal from another program takes to end one. -/
def signalTime : Nat := 100

/-- A signal comes to a program. One from another program ends it a little later. -/
def deliver (sender id signal : Nat) : Machine :=
  match m.task? id with
  | none => m
  | some t =>
    if t.outcome.isSome || signal == 0 then m
    else match (t.provisions.lookup signal).getD .standard with
      | .ignored => m
      | .caught => m.update id (Task.catches · signal)
      | .standard =>
        match Signal.action signal with
        | .ends =>
          if sender == id then m.finish id (.killed signal)
          else m.update id fun t => { t with doom := t.doom.or (some (m.clock + signalTime, signal)) }
        | .nothing => m
        | .stops => m.update id fun t => { t with stopped := true }
        | .continues => m.update id fun t => { t with stopped := false }

end Machine
end Frontier
