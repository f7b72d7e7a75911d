import Frontier.Proofs.Bookkeeping
import Frontier.Proofs.Completion
import Frontier.Proofs.World
import Frontier.Prover.Echo

/-!
# Exchanges on a clock

The engine listens to a prover whose events come at given times until the exchange ends as these times say. An answer
without an error then has its markers, whatever the prover is, and the engine need not do without one.
-/

namespace Frontier

/-! ## On a clock -/

namespace Echo
open Exchange

/-- The delays with which events come at their times. -/
def delays : Nat → List (Nat × Event) → List (Nat × Event)
  | _, [] => []
  | since, (t, e) :: rest => (t - since, e) :: delays t rest

variable {x : Exchange} {es : List (Nat × Event)}

theorem length_delays (since : Nat) (es : List (Nat × Event)) : (delays since es).length = es.length := by
  induction es generalizing since with
  | nil => rfl
  | cons p rest ih => exact congrArg (· + 1) (ih p.1)

theorem passTo_prover (w : World Echo) (moment : Nat) :
    ∃ notices, (w.passTo moment).prover = { w.prover with notices } := by
  unfold World.passTo
  split
  · exact ⟨[], rfl⟩
  · exact ⟨w.prover.notices, rfl⟩

theorem listen_hears {w : World Echo} {h : Hearing} (fuel : Nat) {due : Nat} {e : Event}
    (waits : w.prover.waiting = some (.event due e)) (later : w.clock ≤ due)
    (intime : due ≤ h.sent + x.endsAt h.listening) :
    ∃ w' : World Echo, w'.clock = due ∧ w'.prover.queue = w.prover.queue ∧ w'.prover.running = w.prover.running ∧
      w.listen none x (fuel + 1) h = match x.hear h.listening (due - h.sent) (some e) with
        | .ok l => (w'.instruct Prover.await).listen none x fuel
            { h with listening := l, heard := (due - h.sent, some e) :: h.heard }
        | .error _ => (w', .inl ((due - h.sent, some e) :: h.heard).reverse) := by
  obtain ⟨notices, same⟩ := passTo_prover w due
  have wakes : Prover.wakes w.prover = some due := by simp [Prover.wakes, Echo.wakes, waits]
  have delivers : Prover.deliver due (w.passTo due).prover =
      ({ w.prover with notices, waiting := none }, some e) := by
    simp [Prover.deliver, Echo.deliver, same, waits]
  obtain ⟨w', clock, prover, listens⟩ := w.listen_hears fuel wakes later intime delivers
  exact ⟨w', clock, by rw [prover], by rw [prover], listens⟩

/-- An exchange with a prover whose events come at their times ends as the listener reads them, and at that moment. -/
theorem listen_delays {w : World Echo} {h : Hearing} (runs : w.prover.running = true) (sent : h.sent ≤ w.clock)
    (early : w.clock ≤ h.sent + x.endsAt h.listening) (queue : w.prover.queue = delays (w.clock - h.sent) es)
    (paced : Paced (w.clock - h.sent) es) {fuel : Nat} (enough : es.length < fuel) :
    ∃ w' heard, (w.instruct Prover.await).listen none x fuel h = (w', .inl (h.heard.reverse ++ heard)) ∧
      x.conclude h.listening heard = (x.ending h.listening es).1 ∧ w'.clock = h.sent + (x.ending h.listening es).2 := by
  -- The clock stands where the last event was heard, and the delay of the next one counts from there.
  induction es generalizing w h fuel with
  | nil =>
    obtain ⟨fuel, rfl⟩ := Nat.exists_eq_add_one_of_ne_zero (Nat.ne_zero_of_lt enough)
    have waits : (w.instruct Prover.await).prover.waiting = some .silence := by
      simp [World.instruct, Prover.await, Echo.await, queue, delays, runs]
    have silent : Prover.wakes (w.instruct Prover.await).prover = none := by simp [Prover.wakes, Echo.wakes, waits]
    have ends := (w.instruct Prover.await).listen_ends fuel (h := h) (x := x) (by simp [silent])
    rw [← List.append_nil h.heard.reverse] at ends
    exact ⟨_, [], ends, rfl, ((w.instruct Prover.await).passTo_clock _).trans (Nat.max_eq_left early)⟩
  | cons p rest ih =>
    obtain ⟨t, e⟩ := p
    obtain ⟨from', paced⟩ := paced
    obtain ⟨fuel, rfl⟩ := Nat.exists_eq_add_one_of_ne_zero (Nat.ne_zero_of_lt enough)
    have others : rest.length < fuel := Nat.lt_of_succ_lt_succ enough
    have due : w.clock + (t - (w.clock - h.sent)) = h.sent + t := by omega
    have waits : (w.instruct Prover.await).prover.waiting = some (.event (h.sent + t) e) := by
      simp [World.instruct, Prover.await, Echo.await, queue, delays, due]
    have queue' : (w.instruct Prover.await).prover.queue = delays t rest := by
      simp [World.instruct, Prover.await, Echo.await, queue, delays]
    have runs' : (w.instruct Prover.await).prover.running = true := by
      simp [World.instruct, Prover.await, Echo.await, queue, delays, runs]
    have later : (w.instruct Prover.await).clock ≤ h.sent + t := by
      show w.clock ≤ h.sent + t
      omega
    have time : h.sent + t - h.sent = t := Nat.add_sub_cancel_left ..
    by_cases late : x.endsAt h.listening < t
    · have unheard : ∀ moment, Prover.wakes (w.instruct Prover.await).prover = some moment →
          h.sent + x.endsAt h.listening < max moment (w.instruct Prover.await).clock := by
        intro moment wakes
        obtain rfl : h.sent + t = moment := by simpa [Prover.wakes, Echo.wakes, waits] using wakes
        rw [Nat.max_eq_left later]
        exact Nat.add_lt_add_left late _
      have ends := (w.instruct Prover.await).listen_ends fuel unheard
      rw [← List.append_nil h.heard.reverse] at ends
      rw [ending_late late]
      exact ⟨_, [], ends, rfl, ((w.instruct Prover.await).passTo_clock _).trans (Nat.max_eq_left early)⟩
    have intime : h.sent + t ≤ h.sent + x.endsAt h.listening := by omega
    obtain ⟨w₁, clock₁, queue₁, runs₁, first⟩ := listen_hears fuel waits later intime
    rw [time] at first
    cases hears : x.hear h.listening t (some e) with
    | error fault =>
      simp only [hears] at first
      rw [ending_fails late hears]
      exact ⟨w₁, [(t, some e)], by simpa using first, by simp [conclude, late, hears], clock₁⟩
    | ok l =>
      have sofar : w₁.clock - h.sent = t := by rw [clock₁, time]
      obtain ⟨w', heard, goes, concludes, clock⟩ := ih
        (h := { h with listening := l, heard := (t, some e) :: h.heard }) (runs₁.trans runs')
        (by rw [clock₁]; exact Nat.le_add_right _ _)
        (by rw [clock₁]; exact Nat.add_le_add_left (hear_endsAt late hears) _)
        (by rw [sofar, queue₁, queue']) (by rw [sofar]; exact paced) others
      simp only [hears] at first
      rw [ending_hears late hears]
      refine ⟨w', (t, some e) :: heard, ?_, ?_, clock⟩
      · rw [first, goes]
        simp
      · rw [← concludes]
        simp [conclude, late, hears]

/-- The engine hears an answer whose events come at their times as these say, and no longer. -/
theorem exchange_run {w : World Echo} (runs : w.prover.running = true) (idle : w.prover.queue = [])
    (paced : Paced 0 es) {more : List (List (Nat × Event))} (scripts : w.prover.scripts = delays 0 es :: more)
    (text : String) (x : Exchange) (e : Engine) :
    ∃ w', w.run none ((Engine.exchange text x).run.run e) = (w', .inl ((x.outcome es).1, e)) ∧
      w'.clock = w.clock + (x.outcome es).2 := by
  have asks : (Engine.exchange text x).run.run e = .ask (.send text) fun sent =>
      ((do
        Act.orFail sent
        let heard : Transcript ← Act.ask (.listen x)
        Act.orFail (x.conclude x.begin heard) : Act Counter)).run.run e := rfl
  obtain ⟨w₁, sends, clock₁, queue₁, runs₁⟩ : ∃ w₁ : World Echo, w.answer none (.send text) = (w₁, .inl (.ok ())) ∧
      w₁.clock = w.clock ∧ w₁.prover.queue = delays 0 es ∧ w₁.prover.running = true := by
    simp [World.answer, World.consult, Prover.send, Echo.send, runs, scripts, idle]
  have listens : (do
        Act.orFail (.ok ())
        let heard : Transcript ← Act.ask (.listen x)
        Act.orFail (x.conclude x.begin heard) : Act Counter).run.run e =
      .ask (.listen x) fun heard => .done (x.conclude x.begin heard, e) := by
    show Dialogue.ask _ _ = Dialogue.ask _ _
    congr
    funext heard
    show (Act.orFail (x.conclude x.begin heard)).run.run e = _
    cases x.conclude x.begin heard with
    | ok c => rfl
    | error fault => rfl
  have load : es.length < Prover.load (w₁.instruct Prover.await).prover + 1 := by
    cases es with
    | nil => exact Nat.succ_pos _
    | cons p rest => simp [World.instruct, Prover.await, Echo.await, Prover.load, queue₁, delays, length_delays]
  obtain ⟨w', heard, listened, concludes, clock⟩ := listen_delays (x := x) (h := ⟨w₁.clock, x.begin, []⟩) runs₁
    (Nat.le_refl _) (Nat.le_add_right _ _) (by rw [Nat.sub_self]; exact queue₁) (by rw [Nat.sub_self]; exact paced) load
  rw [ending_begin paced] at concludes clock
  refine ⟨w', ?_, by rw [clock, clock₁]⟩
  rw [asks, World.run, sends]
  simp only [listens, World.run, World.answer, World.resume, listened, List.reverse_nil, List.nil_append, concludes]

end Echo

/-! ## Any prover -/

namespace Engine

theorem submit_segments (text : String) (expected : Nat) (e : Engine) :
    (submit text expected).Leads anyProver (fun r _ _ => r.error = none → expected ≤ r.segments.length)
      (fun _ _ _ => True) e () := by
  refine (submit_attended (reporting_attends _) text expected e ()).mono ?_ (fun _ _ _ _ => trivial)
  rintro r e' s' ⟨-, -, x, heard, counter, -, rfl, concluded, rfl, -⟩ fine
  exact Exchange.enough_segments concluded fine

/-- A single statement is never taken for acknowledged without a marker. -/
theorem executeSingle_marked (s : Statement) (e : Engine) :
    (executeSingle s).Leads anyProver
      (fun _ e' _ => ∃ m : Marker, e'.undo = ((e.undo.announce e.proved).acknowledge e.proved m.id).1)
      (fun _ e' _ => e'.undo = e.undo.announce e.proved ∨
        ∃ cause, e'.undo = (e.undo.announce e.proved).invalidate (.positionLost cause)) e () := by
  simp only [executeSingle, Act.leads_bind, Act.leads_get, Act.leads_modify]
  refine (submit_attended (reporting_attends _) s.text 1 _ ()).mono ?_ ?_
  · rintro r e₁ s₁ ⟨-, undo, x, heard, counter, -, expects, concluded, rfl, -⟩
    cases error : (Response.ofCounter x.rules counter).error with
    | some found => exact .inl undo
    | none =>
      have some : (Response.ofCounter x.rules counter).segments ≠ [] :=
        Exchange.conclude_ne_nil (Nat.le_of_eq expects.symm) concluded
      rw [Response.last?, List.getLast?_eq_some_getLast some]
      simp only [Option.map_some, Act.leads_modify]
      exact ⟨_, congrArg (fun l => (UndoLog.acknowledge l e.proved _).1) undo⟩
  · rintro fault e₁ s₁ failed
    rcases failed.state with ⟨undo, -⟩ | ⟨undo, -⟩
    · exact .inl undo
    · exact .inr ⟨_, undo⟩

end Engine

open Exchange (Paced)

/-- An exchange whose events come at some times ends how and when these say. Whatever the prover is, an answer without
an error has the segments that were expected, and so a single statement is never acknowledged without a marker. -/
theorem exchange_ends_when_quiet :
    (∀ (x : Exchange) (es : List (Nat × Event)), Paced 0 es → ∀ (w : World Echo) (more : List (List (Nat × Event))),
      w.prover.running = true → w.prover.queue = [] → w.prover.scripts = Echo.delays 0 es :: more →
      ∀ (text : String) (e : Engine), ∃ w', w.run none ((Engine.exchange text x).run.run e) =
        (w', .inl ((x.outcome es).1, e)) ∧ w'.clock = w.clock + (x.outcome es).2) ∧
    (∀ (text : String) (expected : Nat) (e : Engine), (Engine.submit text expected).Leads anyProver
      (fun r _ _ => r.error = none → expected ≤ r.segments.length) (fun _ _ _ => True) e ()) ∧
    ∀ (s : Statement) (e : Engine), (Engine.executeSingle s).Leads anyProver
      (fun _ e' _ => ∃ m : Marker, e'.undo = ((e.undo.announce e.proved).acknowledge e.proved m.id).1)
      (fun _ e' _ => e'.undo = e.undo.announce e.proved ∨
        ∃ cause, e'.undo = (e.undo.announce e.proved).invalidate (.positionLost cause)) e () := by
  refine ⟨?_, Engine.submit_segments, Engine.executeSingle_marked⟩
  intro x es paced w more runs idle scripts text e
  exact Echo.exchange_run runs idle paced scripts text x e

/-- An answer that goes on past a timeout of 60. -/
def lingering : List (Nat × Event) :=
  [(10, .output "a\n[1|check]>\n"), (30, .complaint "slow"), (55, .output "b\n"), (100, .output "c\n"),
    (120, .complaint "slow"), (151, .output "d\n"), (400, .exited (some 0) false)]

theorem exchange_ends_when_quiet_lingering :
    Paced 0 lingering ∧ ∃ (w : World Echo) (c : Counter),
      ({ prover := { running := true, scripts := [Echo.delays 0 lingering] } } : World Echo).run none
          ((Engine.exchange "x." ⟨.standard, 1, {}, 50, 60⟩).run.run
            { settings := {}, rules := .standard, undo := .startingAt 0 }) =
        (w, .inl (.ok c, { settings := {}, rules := .standard, undo := .startingAt 0 })) ∧
      w.clock = 150 ∧ c.trailing = "\nb\nc\n" := by
  have paced : Paced 0 lingering := by simp [Paced, lingering]
  obtain ⟨w, runs, clock⟩ := exchange_ends_when_quiet.1 ⟨.standard, 1, {}, 50, 60⟩ lingering paced
    { prover := { running := true, scripts := [Echo.delays 0 lingering] } } [] rfl rfl rfl "x."
    { settings := {}, rules := .standard, undo := .startingAt 0 }
  have last : Exchange.lastOutput? ⟨.standard, 1, {}, 50, 60⟩ {} (Exchange.outputs lingering) = some 100 := by
    decide +kernel
  have ending : Exchange.outcome ⟨.standard, 1, {}, 50, 60⟩ lingering =
      (.ok (Exchange.fedUpTo {} 100 (Exchange.outputs lingering)), 150) := by
    simp only [Exchange.outcome, Exchange.settled, last]
    rfl
  rw [ending] at runs clock
  exact ⟨paced, w, _, runs, clock, by decide +kernel⟩

end Frontier
