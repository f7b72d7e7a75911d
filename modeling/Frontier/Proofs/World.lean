import Frontier.Bench.World
import Frontier.Proofs.Contract

/-!
# Contracts of worlds

A world answers every question at once when no limit is set, unless it is asked to wait for something that never ends.
What a prover shows of itself, through a view, gives a contract; a dialogue that leads to a condition under it runs to
its end in every world with such a prover, and ends where the condition holds.
-/

namespace Frontier
variable {σ τ α : Type} [Prover σ]

/-- The questions that a world answers, and its answers, as far as they depend on a view of its prover. -/
def World.contract (view : σ → τ) : Contract τ where
  asks v q := ∀ w : World σ, view w.prover = v → ∃ w' r, w.answer none q = (w', .inl r)
  answers v q r v' := ∃ w w' : World σ, view w.prover = v ∧ w.answer none q = (w', .inl r) ∧ view w'.prover = v'

namespace World
variable {view : σ → τ}

theorem run_leads {d : Dialogue α} {post : α → τ → Prop} {w : World σ}
    (leads : d.Leads (contract view) post (view w.prover)) :
    ∃ w' a, w.run none d = (w', .inl a) ∧ post a (view w'.prover) := by
  induction d generalizing w with
  | done a => exact ⟨w, a, rfl, leads⟩
  | ask q next ih =>
    obtain ⟨asked, answered⟩ := leads
    obtain ⟨w₁, r, gives⟩ := asked w rfl
    obtain ⟨w₂, a, ends, holds⟩ := ih r (answered r _ ⟨w, w₁, rfl, gives, rfl⟩)
    refine ⟨w₂, a, ?_, holds⟩
    rw [run, gives]
    exact ends

/-- A question with one answer. -/
theorem contract_single {q : Query} {v v' : τ} {r : q.Reply}
    (gives : ∀ w : World σ, view w.prover = v → ∃ w', w.answer none q = (w', .inl r) ∧ view w'.prover = v')
    {post : q.Reply → τ → Prop} (next : post r v') :
    (contract view).asks v q ∧ ∀ r' v'', (contract view).answers v q r' v'' → post r' v'' := by
  constructor
  · intro w same
    obtain ⟨w', answer, -⟩ := gives w same
    exact ⟨w', r, answer⟩
  · rintro r' _ ⟨w, w₁, same, answered, rfl⟩
    obtain ⟨w', answer, ends⟩ := gives w same
    obtain ⟨rfl, rfl⟩ : w' = w₁ ∧ r = r' := by simpa [answer] using answered
    rw [ends]
    exact next

theorem contract_quiet (view : σ → τ) : Engine.Quiet (contract view) where
  publish _ n := contract_single (r := ()) (fun w same => ⟨{ w with feed := w.feed.push n }, rfl, same⟩) rfl
  time _ := contract_single (r := Timestamp.epoch) (fun w same => ⟨w, rfl, same⟩) rfl

/-! ## Listening -/

variable {x : Exchange} {h : Hearing} {moment : Nat}

theorem passTo_clock (w : World σ) (moment : Nat) : (w.passTo moment).clock = max moment w.clock := by
  unfold passTo
  split
  · next before => exact (Nat.max_eq_left (Nat.le_of_lt before)).symm
  · next after => exact (Nat.max_eq_right (Nat.not_lt.mp after)).symm

/-- Nothing more is heard before the exchange ends. -/
theorem listen_ends (w : World σ) (fuel : Nat)
    (late : ∀ moment, Prover.wakes w.prover = some moment → h.sent + x.endsAt h.listening < max moment w.clock) :
    w.listen none x (fuel + 1) h = ((w.passTo (h.sent + x.endsAt h.listening)).instruct fun _ => Prover.abandon,
      .inl h.heard.reverse) := by
  unfold listen
  cases wakes : Prover.wakes w.prover with
  | none => rfl
  | some moment =>
    simp only [late moment wakes, ↓reduceIte]
    rfl

/-- Something is heard before the exchange ends. -/
theorem listen_hears (w : World σ) (fuel : Nat) (wakes : Prover.wakes w.prover = some moment) (later : w.clock ≤ moment)
    (intime : moment ≤ h.sent + x.endsAt h.listening) {p : σ} {e : Option Event}
    (delivers : Prover.deliver moment (w.passTo moment).prover = (p, e)) :
    ∃ w' : World σ, w'.clock = moment ∧ w'.prover = p ∧ w.listen none x (fuel + 1) h =
      match x.hear h.listening (moment - h.sent) e with
      | .ok l => (w'.instruct Prover.await).listen none x fuel
          { h with listening := l, heard := (moment - h.sent, e) :: h.heard }
      | .error _ => (w', .inl ((moment - h.sent, e) :: h.heard).reverse) := by
  have clock : (w.passTo moment).clock = moment := (w.passTo_clock moment).trans (Nat.max_eq_left later)
  have delivers : Prover.deliver (w.passTo moment).clock (w.passTo moment).prover = (p, e) := by rw [clock, delivers]
  have consults : (w.passTo moment).consult Prover.deliver = ({ w.passTo moment with prover := p }, e) := by
    rw [consult, delivers]
  conv => rhs; ext; rhs; rhs; lhs; unfold listen
  simp only [wakes, Nat.max_eq_left later, Nat.not_lt.mpr intime, ↓reduceIte, within, Option.all_none, Bool.not_true,
    Bool.false_eq_true, consults]
  cases x.hear h.listening (moment - h.sent) e with
  | ok l =>
    refine ⟨_, ?_, ?_, rfl⟩
    · split <;> exact clock
    · split <;> rfl
  | error fault =>
    refine ⟨_, ?_, ?_, rfl⟩
    · split <;> exact clock
    · split <;> rfl

end World
end Frontier
