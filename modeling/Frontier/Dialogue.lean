import Frontier.Exchange
import Frontier.Report

/-!
# Dialogues

The engine does not hold a prover. It asks questions, and what it does depends on the answers alone: a
`Dialogue α` is the finite tree of its questions, with one branch for every answer and a value at each leaf.
To run it is to choose the answers; a statement about every prover is one about all branches.
-/

namespace Frontier

/-- What a process shows when it is started. -/
structure Greeting where
  /-- The startup marker, if it was waited for. -/
  marker : Option Marker
  /-- What was printed before it. -/
  banner : String := ""
  deriving DecidableEq, Repr, Inhabited

/-- A question to the world outside. -/
inductive Query where
  /-- Is a process attached that can take input? -/
  | running
  /-- Close the process's input, and do not wait. -/
  | stop
  /-- Close the process's input and wait, no longer than a limit, until it is gone. -/
  | halt (limit : Nat)
  /-- Start a process: what does it show? -/
  | start
  /-- What has been heard and not been asked for yet? -/
  | drain
  /-- Send a command. -/
  | send (text : String)
  /-- What is heard until the exchange ends? All text of it is passed on to the host at once. -/
  | listen (x : Exchange)
  /-- Tell the host. -/
  | publish (n : Notification)
  /-- What time is it? -/
  | time

/-- The type of the answers to a question. -/
abbrev Query.Reply : Query → Type
  | running => Bool
  | stop => Unit
  | halt _ => Unit
  | start => Except Fault Greeting
  | drain => List Event
  | send _ => Except Fault Unit
  | listen _ => Transcript
  | publish _ => Unit
  | time => Timestamp

/-- What the host is told in the course of a question and its answer. -/
def Query.told : (q : Query) → q.Reply → List Notification
  | publish n, _ => [n]
  | listen x, heard => (x.passedOn x.begin heard).map .rawOutput
  | _, _ => []

/-- A finite tree of questions. -/
inductive Dialogue (α : Type) where
  | done (a : α)
  | ask (q : Query) (next : q.Reply → Dialogue α)

namespace Dialogue
variable {α β γ : Type}

/-- Goes on with another dialogue at every leaf. -/
def bind (d : Dialogue α) (f : α → Dialogue β) : Dialogue β :=
  match d with
  | done a => f a
  | ask q next => ask q fun r => (next r).bind f

instance : Monad Dialogue where
  pure := done
  bind := bind

@[simp] theorem pure_eq (a : α) : (pure a : Dialogue α) = done a := rfl

@[simp] theorem done_bind (a : α) (f : α → Dialogue β) : done a >>= f = f a := rfl

@[simp] theorem ask_bind (q : Query) (next : q.Reply → Dialogue α) (f : α → Dialogue β) :
    ask q next >>= f = ask q fun r => next r >>= f := rfl

theorem bind_done (d : Dialogue α) : d >>= done = d := by
  induction d with
  | done a => rfl
  | ask q next ih => simp only [ask_bind, ih]

theorem bind_bind (d : Dialogue α) (f : α → Dialogue β) (g : β → Dialogue γ) :
    (d >>= f) >>= g = d >>= fun a => f a >>= g := by
  induction d with
  | done a => rfl
  | ask q next ih => simp only [ask_bind, ih]

instance : LawfulMonad Dialogue := LawfulMonad.mk' Dialogue bind_done (fun _ _ => rfl) bind_bind

/-- Asks one question. -/
def query (q : Query) : Dialogue q.Reply := ask q done

end Dialogue
end Frontier
