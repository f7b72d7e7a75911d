import Frontier.Machine.Errno
import Frontier.Machine.Signal

/-!
# Routines

What a program does is a tree: it asks the system for something, and each answer leads on. A routine ends with a
status, or divides into two. `Plan` is the same written from the other end: a computation is given what comes after
it, so that routines can be composed.
-/

namespace Frontier

/-- How a file is opened. -/
structure Access where
  reads : Bool := false
  writes : Bool := false
  appends : Bool := false
  creates : Bool := false
  /-- Refused if the file is there. -/
  exclusive : Bool := false
  truncates : Bool := false
  deriving DecidableEq, Repr, Inhabited

/-- The kinds of files. -/
inductive FileKind where
  | plain
  | directory
  | device
  | pipe
  | link
  deriving DecidableEq, Repr, Inhabited

/-- What is known of a file. -/
structure FileFacts where
  kind : FileKind
  /-- Its permissions. -/
  mode : Nat
  size : Nat
  /-- The same number for the same file. -/
  number : Nat
  deriving DecidableEq, Repr, Inhabited

/-- Changes to the tree of files. -/
inductive FileChange where
  | makeDirectory (path : Bytes)
  | removeDirectory (path : Bytes)
  | remove (path : Bytes)
  | rename (path target : Bytes)
  | link (target path : Bytes)
  | setMode (path : Bytes) (mode : Nat)
  deriving DecidableEq, Repr, Inhabited

/-- What a signal is to do to a program. -/
inductive Provision where
  | standard
  | ignored
  | caught
  deriving DecidableEq, Repr, Inhabited

/-- How a program has ended. -/
inductive TaskEnd where
  | exited (status : Nat)
  | killed (signal : Nat)
  deriving DecidableEq, Repr, Inhabited

/-- What waiting for a child has shown. -/
inductive Waited where
  /-- No child has ended. -/
  | nothing
  /-- There is no child to wait for. -/
  | noChild
  /-- A signal came first. -/
  | interrupted
  | ended (child : Nat) (outcome : TaskEnd)
  deriving DecidableEq, Repr, Inhabited

/-- What a program asks the system for. -/
inductive SystemCall where
  | read (descriptor count : Nat)
  | write (descriptor : Nat) (bytes : Bytes)
  | openFile (path : Bytes) (access : Access)
  | close (descriptor : Nat)
  /-- A new descriptor, not below `low`, for the same file; `private` ones are closed when another program takes
  over. -/
  | duplicate (descriptor low : Nat) (isPrivate : Bool)
  /-- Makes `target` a descriptor for the same file. -/
  | replace (descriptor target : Nat)
  | makePipe
  /-- Another program takes over. An answer comes only if that is refused. -/
  | run (path : Bytes) (args : List Bytes) (environment : List (Bytes × Bytes))
  /-- Waits for a child, or for one of all. -/
  | wait (child : Option Nat) (blocks : Bool)
  /-- Sends a signal; the number 0 only asks whether the program is there. -/
  | signal (target : Int) (number : Nat)
  | provide (signal : Nat) (provision : Provision)
  | provision (signal : Nat)
  /-- The signals that were caught since the last call. -/
  | caught
  /-- Time passes, unless a signal comes. -/
  | rest (ticks : Nat)
  /-- The program works for a time. -/
  | work (ticks : Nat)
  | moment
  /-- The numbers of the program and of its parent. -/
  | identity
  | facts (path : Bytes) (follows : Bool)
  | factsOf (descriptor : Nat)
  | entries (path : Bytes)
  | readLink (path : Bytes)
  | directory
  | enter (path : Bytes)
  | change (c : FileChange)
  deriving Repr, Inhabited

/-- The answer to a call. -/
abbrev SystemCall.Reply : SystemCall → Type
  | read .. | directory | readLink .. => Except Errno Bytes
  | write .. | openFile .. | duplicate .. => Except Errno Nat
  | close .. | replace .. | signal .. | enter .. | change .. => Except Errno Unit
  | makePipe | identity => Nat × Nat
  | run .. => Errno
  | wait .. => Waited
  | provide .. | rest .. | work .. => Unit
  | provision .. => Provision
  | caught => List Nat
  | moment => Nat
  | facts .. | factsOf .. => Except Errno FileFacts
  | entries .. => Except Errno (List Bytes)

/-- What a program does. -/
inductive Routine where
  | done (status : Nat)
  | ask (call : SystemCall) (next : call.Reply → Routine)
  /-- A child goes its own way; `next` is given its number. -/
  | fork (child : Routine) (next : Nat → Routine)

instance : Inhabited Routine := ⟨.done 0⟩

/-- A part of a routine: what it does before what comes after it. -/
def Plan (α : Type) : Type := (α → Routine) → Routine

namespace Plan

instance : Monad Plan where
  pure a := fun next => next a
  bind act f := fun next => act fun a => f a next

/-- Asks the system. -/
def ask (call : SystemCall) : Plan call.Reply := fun next => .ask call next

/-- Ends with a status. -/
def exit {α : Type} (status : Nat) : Plan α := fun _ => .done status

/-- The whole of a routine: what comes after it is its status. -/
def routine (act : Plan Nat) : Routine := act fun status => .done (status % 256)

/-- Lets a child do something. -/
def fork (child : Plan Nat) : Plan Nat := fun next => .fork child.routine next

/-- More rounds than any loop is given time for. -/
def endless : Nat := 1000000000000000

/-- Goes round until there is a result, a number of times at most. -/
def rounds {σ α : Type} (body : σ → Plan (σ ⊕ α)) : Nat → σ → Plan α
  | 0, _ => exit 255
  | n + 1, s => do
    match ← body s with
    | .inl s => rounds body n s
    | .inr a => pure a

/-- Goes round until there is a result. -/
def loop {σ α : Type} (s : σ) (body : σ → Plan (σ ⊕ α)) : Plan α := rounds body endless s

end Plan
end Frontier
