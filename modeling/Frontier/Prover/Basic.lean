import Frontier.Dialogue

/-!
# Provers on a clock

A model of a prover process answers the engine's questions at given moments, in milliseconds since some
beginning. What takes time is split: the model says when a wait will be over, and is asked again then.
-/

namespace Frontier

/-- A model of a prover with states `σ`. The first argument of most operations is the present moment. -/
class Prover (σ : Type) where
  /-- Whether a process is attached that can take input. -/
  running : Nat → σ → σ × Bool
  /-- Closes the process's input. -/
  stop : Nat → σ → σ
  /-- Closes the process's input; says when the wait for its end, bounded by a limit, will be over. -/
  halt : Nat → Nat → σ → σ × Nat
  /-- Begins a start; says when it will be over. -/
  beginStart : Nat → σ → σ × Nat
  /-- Ends the start that was begun. -/
  endStart : Nat → σ → σ × Except Fault Greeting
  /-- Takes what can be heard without waiting. -/
  drain : Nat → σ → σ × List Event
  /-- Takes a command. -/
  send : Nat → String → σ → σ × Except Fault Unit
  /-- Begins to wait for something to be heard. -/
  await : Nat → σ → σ
  /-- When the wait will be over, as things stand; a moment in the past counts as now. -/
  wakes : σ → Option Nat
  /-- Ends the wait with what is heard; `none` when there is nothing more to hear. -/
  deliver : Nat → σ → σ × Option Event
  /-- Gives the wait up. -/
  abandon : σ → σ
  /-- A bound on how often something can still be heard. -/
  load : σ → Nat
  /-- Notices what has happened to the process since it was last asked. -/
  notice : Nat → σ → σ
  /-- Takes the exit notices that were published. -/
  exits : σ → σ × List ExitNotice

end Frontier
