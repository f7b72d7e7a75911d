import Frontier.Bench.Feed
import Frontier.Prover.Basic

/-!
# A world for dialogues

A world is a clock, a model of a prover and the host's feed. It answers the questions of a dialogue, and lets
time pass where an answer takes time: the clock then jumps to the moment when the wait is over. A run may be
given a limit; a dialogue that waits beyond it is paused there and can be resumed.
-/

namespace Frontier

/-- A clock, a prover and a feed. -/
structure World (σ : Type) where
  clock : Nat := 0
  prover : σ
  feed : Feed := {}

/-- How far an exchange has come that is being listened to. -/
structure Hearing where
  /-- When the command was sent. -/
  sent : Nat
  listening : Listening
  /-- What has been heard, latest first. -/
  heard : List (Nat × Option Event) := []

/-- What is kept of a question while its answer is waited for. -/
inductive Query.Pause : Query → Type where
  /-- A start that will be over at a moment. -/
  | starting (due : Nat) : Pause .start
  /-- A wait for the process's end that will be over at a moment. -/
  | halting {limit : Nat} (due : Nat) : Pause (.halt limit)
  /-- An exchange. -/
  | listening {x : Exchange} (h : Hearing) : Pause (.listen x)

/-- A dialogue that waits for an answer. -/
structure Paused (α : Type) where
  query : Query
  pause : query.Pause
  next : query.Reply → Dialogue α

/-- Whether a moment lies within a limit; no limit holds all. -/
def within (limit : Option Nat) (moment : Nat) : Bool := limit.all (moment ≤ ·)

namespace World
variable {σ : Type} [Prover σ]

/-- Passes exit notices on to the host. -/
def forward (w : World σ) : World σ :=
  let (prover, notices) := Prover.exits w.prover
  { w with prover, feed := (notices.filterMap ExitNotice.notification?).foldl Feed.push w.feed }

/-- Asks the prover something that takes no time. -/
def consult {β : Type} (w : World σ) (f : Nat → σ → σ × β) : World σ × β :=
  let (prover, b) := f w.clock w.prover
  ({ w with prover }, b)

/-- Tells the prover something. -/
def instruct (w : World σ) (f : Nat → σ → σ) : World σ := { w with prover := f w.clock w.prover }

/-- Lets time pass up to a moment; it does not run backwards. Exit notices are passed on before. -/
def passTo (w : World σ) (moment : Nat) : World σ :=
  if w.clock < moment then { w.forward with clock := moment } else w

/-- Listens on, within a limit; each step of `fuel` hears one thing. -/
def listen (limit : Option Nat) (x : Exchange) : Nat → World σ → Hearing → World σ × (Transcript ⊕ Hearing)
  | 0, w, h => (w, .inr h)
  | fuel + 1, w, h =>
    let ends := h.sent + x.endsAt h.listening
    let finish (w : World σ) : World σ × (Transcript ⊕ Hearing) :=
      if within limit ends then
        ((w.passTo ends).instruct fun _ => Prover.abandon, .inl h.heard.reverse)
      else (w, .inr h)
    match Prover.wakes w.prover with
    | none => finish w
    | some moment =>
      let moment := max moment w.clock
      if ends < moment then finish w
      else if !within limit moment then (w, .inr h)
      else
        let (w, event) := (w.passTo moment).consult Prover.deliver
        let w := match event.bind Event.text? with
          | some text => { w with feed := w.feed.push (.rawOutput text) }
          | none => w
        let time := moment - h.sent
        let heard := (time, event) :: h.heard
        match x.hear h.listening time event with
        | .error _ => (w, .inl heard.reverse)
        | .ok listening => listen limit x fuel (w.instruct Prover.await) { h with listening, heard }

/-- Goes on to wait for an answer, within a limit. -/
def resume {q : Query} (limit : Option Nat) (w : World σ) : q.Pause → World σ × (q.Reply ⊕ q.Pause)
  | .starting due =>
    if within limit due then
      let (w, greeting) := (w.passTo due).consult Prover.endStart
      (w, .inl greeting)
    else (w, .inr (.starting due))
  | .halting due => if within limit due then (w.passTo due, .inl ()) else (w, .inr (.halting due))
  | @Query.Pause.listening x h =>
    match w.listen limit x (Prover.load w.prover + 1) h with
    | (w, .inl heard) => (w, .inl heard)
    | (w, .inr h) => (w, .inr (.listening h))

/-- Answers a question, or waits for the answer. -/
def answer (limit : Option Nat) (w : World σ) : (q : Query) → World σ × (q.Reply ⊕ q.Pause)
  | .running =>
    let (w, running) := w.consult Prover.running
    (w, .inl running)
  | .stop => (w.instruct Prover.stop, .inl ())
  | .halt bound =>
    let (w, due) := w.consult fun now => Prover.halt now bound
    w.resume limit (.halting due)
  | .start =>
    let (w, due) := w.consult Prover.beginStart
    w.resume limit (.starting due)
  | .drain =>
    let (w, events) := w.consult Prover.drain
    (w, .inl events)
  | .send text =>
    let (w, sent) := w.consult fun now => Prover.send now text
    (w, .inl sent)
  | .listen x => (w.instruct Prover.await).resume limit (.listening ⟨w.clock, x.begin, []⟩)
  | .publish n => ({ w with feed := w.feed.push n }, .inl ())
  | .time => (w, .inl Timestamp.epoch)

/-- Runs a dialogue to its end, or to where it waits beyond the limit. -/
def run {α : Type} (limit : Option Nat) (w : World σ) : Dialogue α → World σ × (α ⊕ Paused α)
  | .done a => (w, .inl a)
  | .ask q next =>
    match w.answer limit q with
    | (w, .inl r) => w.run limit (next r)
    | (w, .inr pause) => (w, .inr ⟨q, pause, next⟩)

/-- Runs a paused dialogue on. -/
def rerun {α : Type} (limit : Option Nat) (w : World σ) (p : Paused α) : World σ × (α ⊕ Paused α) :=
  match w.resume limit p.pause with
  | (w, .inl r) => w.run limit (p.next r)
  | (w, .inr pause) => (w, .inr { p with pause })

end World
end Frontier
