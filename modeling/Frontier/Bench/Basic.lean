import Frontier.Bench.World
import Frontier.Desk

/-!
# The bench

The bench puts a desk into a world and lets two tasks of a host act on it: the main one takes one action, and
a second one acts at given moments meanwhile. What the desk's calls return is noted with their tickets.
-/

namespace Frontier

/-- A desk in a world. -/
structure Bench (σ : Type) where
  world : World σ
  desk : Desk
  /-- What the call that holds the engine waits for. -/
  job : Option (Paused Finding) := none
  /-- The answers given since they were last looked at. -/
  answers : List (Ticket × Answer) := []

namespace Bench
variable {σ : Type} [Prover σ]

/-- Makes moves until a dialogue waits beyond the limit or the engine is free. -/
def drive (limit : Option Nat) (b : Bench σ) (m : Move) : Bench σ :=
  let b := { b with desk := m.desk, answers := b.answers ++ m.answers, job := none }
  match m.work with
  | none => b
  | some work =>
    match b.world.run limit work with
    | (world, .inr paused) => { b with world, job := some paused }
    | (world, .inl finding) =>
      let next := m.desk.proceed finding
      if _more : next.work.isSome then ({ b with world } : Bench σ).drive limit next
      else { b with world, desk := next.desk, answers := b.answers ++ next.answers }
termination_by m.desk.rank
decreasing_by exact Desk.proceed_rank _ _ _more

/-- Lets the call that holds the engine go on, within a limit. -/
def goOn (limit : Option Nat) (b : Bench σ) : Bench σ :=
  match b.job with
  | none => b
  | some paused =>
    match b.world.rerun limit paused with
    | (world, .inr paused) => { b with world, job := some paused }
    | (world, .inl finding) => ({ b with world } : Bench σ).drive limit (b.desk.proceed finding)

/-- Takes a call, and lets it go on within a limit. -/
def call (limit : Option Nat) (b : Bench σ) (ticket : Ticket) (c : Call) : Bench σ :=
  let m := b.desk.call ticket c
  if m.work.isSome then b.drive limit m
  else { b with desk := m.desk, answers := b.answers ++ m.answers }

/-- The answer given to a ticket. -/
def answer? (b : Bench σ) (ticket : Ticket) : Option Answer := b.answers.lookup ticket

/-- The status that a host sees: the engine's own when it is free, else as last noted. -/
def status (b : Bench σ) : Bench σ × Status :=
  if b.desk.holder.isSome then (b, b.desk.noted)
  else
    match b.world.run none b.desk.engine.status with
    | (world, .inl s) => ({ b with world }, s)
    | (world, .inr _) => ({ b with world }, b.desk.noted)

/-- What one of the tasks does. -/
inductive Deed (σ : Type) where
  /-- Calls the desk. -/
  | call (c : Call)
  /-- Lets time pass. -/
  | wait (ms : Nat)
  /-- Does something to the prover from outside. -/
  | meddle (f : Nat → σ → σ)

/-- A deed of the second task: it waits for a moment, given since the step began, and then acts. -/
structure Entry (σ : Type) where
  after : Nat
  deed : Deed σ

/-- What is seen right after an entry. -/
structure Sight where
  answer : Option Answer
  status : Status
  offset : Nat
  clock : Nat
  deriving Repr, Inhabited

/-- The ticket of the main task, which makes the call of a step. -/
def mainTicket : Ticket := 0

/-- The ticket of the second task, which acts while that call is under way. -/
def secondTicket : Ticket := 1

/-- Lets time pass up to a moment, with what the main task does meanwhile. -/
def passTo (b : Bench σ) (moment : Nat) : Bench σ :=
  let b := b.goOn (some moment)
  { b with world := b.world.passTo moment }

/-- The second task acts. A call that has to wait lets the main task finish first. -/
def enter (b : Bench σ) (e : Entry σ) (began : Nat) : Bench σ × Sight :=
  let b := b.passTo (max b.world.clock (began + e.after))
  let b := { b with answers := b.answers.filter (·.1 != secondTicket) }
  let b := match e.deed with
    | .call c =>
      let b := b.call none secondTicket c
      if (b.answer? secondTicket).isSome then b else b.goOn none
    | .wait ms => b.passTo (b.world.clock + ms)
    | .meddle f => { b with world.prover := f b.world.clock b.world.prover }
  let answer := b.answer? secondTicket
  let (b, status) := b.status
  (b, ⟨answer, status, b.desk.offset, b.world.clock⟩)

/-- The second task takes its entries one after the other. -/
def enterAll (began : Nat) : Bench σ → List (Entry σ) → Bench σ × List Sight
  | b, [] => (b, [])
  | b, e :: rest =>
    let (b, sight) := b.enter e began
    let (b, sights) := enterAll began b rest
    (b, sight :: sights)

/-- One step: the main task acts, the second one meanwhile, and both come to their end. -/
def step (b : Bench σ) (deed : Deed σ) (entries : List (Entry σ)) : Bench σ × Option Answer × List Sight :=
  let began := b.world.clock
  let limit := entries.head?.map fun e => began + e.after
  let b := { b with answers := [] }
  let b := match deed with
    | .call c => b.call limit mainTicket c
    | .wait _ => b
    | .meddle f => { b with world.prover := f b.world.clock b.world.prover }
  let (b, sights) := enterAll began b entries
  let b := b.goOn none
  let b := match deed with
    | .wait ms => { b with world := b.world.passTo (began + ms) }
    | _ => b
  let b := { b with world := (b.world.instruct Prover.notice).forward }
  (b, b.answer? mainTicket, sights)

/-- Takes what the host can read. -/
def read (b : Bench σ) : Bench σ × Feed := ({ b with world.feed := {} }, b.world.feed)

end Bench
end Frontier
