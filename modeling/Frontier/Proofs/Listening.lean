import Frontier.Proofs.Ledger

/-!
# Listening to a ledger

After a command the queue of a ledger holds one output, or the exit of the process, perhaps with an output before it.
What is heard of it is the same in every world.
-/

namespace Frontier.Ledger

section Steps
variable {w : World Ledger} {x : Exchange} {h : Hearing} {e : Event}

theorem passTo_prover (w : World Ledger) (moment : Nat) :
    ∃ notices, (w.passTo moment).prover = { w.prover with echo := { w.prover.echo with notices } } := by
  unfold World.passTo
  split
  · exact ⟨[], rfl⟩
  · exact ⟨w.prover.echo.notices, rfl⟩

/-- An event that leaves the exchange open. -/
theorem listen_hears (fuel due : Nat) {l' : Listening} (waits : w.prover.echo.waiting = some (.event due e))
    (later : w.clock ≤ due)
    (intime : due ≤ h.sent + x.endsAt h.listening) (hears : x.hear h.listening (due - h.sent) (some e) = .ok l') :
    ∃ (w' : World Ledger) (notices : List ExitNotice), w'.clock = due ∧
      w'.prover = { w.prover with echo := ({ w.prover.echo with notices } : Echo).await due } ∧
      w.listen none x (fuel + 1) h =
        w'.listen none x fuel { h with listening := l', heard := (due - h.sent, some e) :: h.heard } := by
  obtain ⟨notices, same⟩ := passTo_prover w due
  have wakes : Prover.wakes w.prover = some due := by simp [Prover.wakes, Echo.wakes, waits]
  have delivers : Prover.deliver due (w.passTo due).prover =
      ({ w.prover with echo := { w.prover.echo with notices, waiting := none } }, some e) := by
    simp [Prover.deliver, Echo.deliver, same, waits]
  obtain ⟨w', clock, prover, listens⟩ := w.listen_hears fuel wakes later intime delivers
  refine ⟨w'.instruct Prover.await, notices, clock, ?_, ?_⟩
  · have awaits : ∀ p : Echo, ({ p with waiting := none } : Echo).await due = p.await due := by
      intro p
      cases queue : p.queue <;> simp [Echo.await, queue]
    simp only [World.instruct, Prover.await, clock, prover, ← awaits { w.prover.echo with notices }]
  · rw [listens, hears]

/-- An event that ends the exchange. -/
theorem listen_fails (fuel due : Nat) {fault : Fault} (waits : w.prover.echo.waiting = some (.event due e))
    (later : w.clock ≤ due)
    (intime : due ≤ h.sent + x.endsAt h.listening) (hears : x.hear h.listening (due - h.sent) (some e) = .error fault) :
    ∃ w' : World Ledger, view w'.prover = view w.prover ∧
      w.listen none x (fuel + 1) h = (w', .inl ((due - h.sent, some e) :: h.heard).reverse) := by
  obtain ⟨notices, same⟩ := passTo_prover w due
  have wakes : Prover.wakes w.prover = some due := by simp [Prover.wakes, Echo.wakes, waits]
  have delivers : Prover.deliver due (w.passTo due).prover =
      ({ w.prover with echo := { w.prover.echo with notices, waiting := none } }, some e) := by
    simp [Prover.deliver, Echo.deliver, same, waits]
  obtain ⟨w', -, prover, listens⟩ := w.listen_hears fuel wakes later intime delivers
  refine ⟨w', by rw [prover]; rfl, ?_⟩
  rw [listens, hears]

/-- Silence until the end of the exchange. -/
theorem listen_silence (fuel : Nat) (waits : w.prover.echo.waiting = some .silence) :
    ∃ w' : World Ledger, view w'.prover = view w.prover ∧
      w.listen none x (fuel + 1) h = (w', .inl h.heard.reverse) := by
  obtain ⟨notices, same⟩ := passTo_prover w (h.sent + x.endsAt h.listening)
  have wakes : Prover.wakes w.prover = none := by simp [Prover.wakes, Echo.wakes, waits]
  refine ⟨_, ?_, w.listen_ends fuel (by simp [wakes])⟩
  simp only [World.instruct, same]
  rfl

end Steps

variable {v : View} {x : Exchange} {chunk : String} {post : Transcript → View → Prop}

/-- A complete answer from a process that lives on. -/
theorem asks_listen_answer (queue : v.queue = [(0, .output chunk)]) (runs : v.running = true)
    (complete : x.complete (x.counter.feed chunk) = true)
    (next : post [(0, some (.output chunk))] { v with queue := [] }) :
    contract.asks v (.listen x) ∧ ∀ r v', contract.answers v (.listen x) r v' → post r v' := by
  refine World.contract_single (fun w same => ?_) next
  subst same
  have queue : w.prover.echo.queue = [(0, .output chunk)] := queue
  have runs : w.prover.echo.running = true := runs
  have hears : x.hear x.begin (w.clock - w.clock) (some (.output chunk)) =
      .ok ⟨x.counter.feed chunk, some (0 + x.quiet)⟩ := by
    simp [Exchange.hear, Exchange.begin, complete]
  obtain ⟨w₁, notices, clock, prover, first⟩ := listen_hears 1 w.clock (w := w.instruct Prover.await)
    (x := x) (h := ⟨w.clock, x.begin, []⟩)
    (by simp [World.instruct, Prover.await, Echo.await, queue]) (Nat.le_refl _) (Nat.le_add_right _ _) hears
  obtain ⟨w₂, same, second⟩ := listen_silence 0 (w := w₁) (x := x)
    (h := ⟨w.clock, ⟨x.counter.feed chunk, some (0 + x.quiet)⟩, [(w.clock - w.clock, some (.output chunk))]⟩)
    (by rw [prover]; simp [World.instruct, Prover.await, Echo.await, queue, runs])
  have load : Prover.load (w.instruct Prover.await).prover + 1 = 2 := by
    simp [Prover.load, World.instruct, Prover.await, Echo.await, queue]
  have whole := first.trans second
  refine ⟨w₂, ?_, ?_⟩
  · simp only [World.answer, World.resume, load, whole, Nat.sub_self, List.reverse_singleton]
  · rw [same, prover]
    simp [view, World.instruct, Prover.await, Echo.await, queue, runs]

/-- An exit, at once or after an answer that is not complete. -/
theorem asks_listen_exit (code : Option Int) (expected : Bool) (outs : List String) (dead : v.running = false)
    (timeout : 1 ≤ x.timeout)
    (queue : v.queue = outs.map (fun out => (0, .output out)) ++ [(1, .exited code expected)])
    (few : outs = [] ∨ ∃ out, outs = [out] ∧ x.complete (x.counter.feed out) = false)
    (next : post (outs.map (fun out => (0, some (.output out))) ++ [(1, some (.exited code expected))])
      { v with queue := [] }) :
    contract.asks v (.listen x) ∧ ∀ r v', contract.answers v (.listen x) r v' → post r v' := by
  refine World.contract_single (fun w same => ?_) next
  subst same
  have queue : w.prover.echo.queue = _ := queue
  have dead : w.prover.echo.running = false := dead
  rcases few with rfl | ⟨out, rfl, open'⟩
  · have queue : w.prover.echo.queue = [(1, .exited code expected)] := queue
    obtain ⟨w₁, same, first⟩ := listen_fails 1 (w.clock + 1) (w := w.instruct Prover.await) (x := x)
      (h := ⟨w.clock, x.begin, []⟩) (e := .exited code expected)
      (by simp [World.instruct, Prover.await, Echo.await, queue]) (Nat.le_add_right _ _)
      (Nat.add_le_add_left timeout _) rfl
    have load : Prover.load (w.instruct Prover.await).prover + 1 = 2 := by
      simp [Prover.load, World.instruct, Prover.await, Echo.await, queue]
    refine ⟨w₁, ?_, ?_⟩
    · simp only [World.answer, World.resume, load, first, Nat.add_sub_cancel_left, List.reverse_singleton, List.map_nil,
        List.nil_append]
    · rw [same]
      simp [view, World.instruct, Prover.await, Echo.await, queue]
  · have queue : w.prover.echo.queue = [(0, .output out), (1, .exited code expected)] := queue
    have hears : x.hear x.begin (w.clock - w.clock) (some (.output out)) = .ok ⟨x.counter.feed out, none⟩ := by
      simp [Exchange.hear, Exchange.begin, open']
    obtain ⟨w₁, notices, clock, prover, first⟩ := listen_hears 2 w.clock (w := w.instruct Prover.await)
      (x := x) (h := ⟨w.clock, x.begin, []⟩)
      (by simp [World.instruct, Prover.await, Echo.await, queue]) (Nat.le_refl _) (Nat.le_add_right _ _) hears
    obtain ⟨w₂, same, second⟩ := listen_fails 1 (w.clock + 1) (w := w₁) (x := x)
      (h := ⟨w.clock, ⟨x.counter.feed out, none⟩, [(w.clock - w.clock, some (.output out))]⟩)
      (e := .exited code expected)
      (by rw [prover]; simp [World.instruct, Prover.await, Echo.await, queue])
      (by rw [clock]; exact Nat.le_add_right _ _)
      (Nat.add_le_add_left timeout _) rfl
    have load : Prover.load (w.instruct Prover.await).prover + 1 = 3 := by
      simp [Prover.load, World.instruct, Prover.await, Echo.await, queue]
    have whole := first.trans second
    refine ⟨w₂, ?_, ?_⟩
    · simp only [World.answer, World.resume, load, whole, Nat.sub_self, Nat.add_sub_cancel_left]
      rfl
    · rw [same, prover]
      simp [view, World.instruct, Prover.await, Echo.await, queue]

end Frontier.Ledger
