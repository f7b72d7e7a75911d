import Frontier.Proofs.Bookkeeping

/-!
# Arrival

While the document stays the same, an operation that succeeds has moved the end of the verified region to its
destination, whatever the prover did on the way. One that fails leaves the region at the end of a statement, no further
than where it began or was to go, and a motion forward that fails ends below its destination.
-/

namespace Frontier

/-- What is left of a document's region, which ended at `x`, when an intent was followed. -/
structure Intent.Followed (i : Intent) (doc : String) (x : Nat) (o : Outcome) (e : Engine) : Prop where
  shown : o.offset = some e.offset
  arrived : o.success = true → e.offset = i.destination doc x
  reset : i = .reset → o.success = true
  boundary : o.success = false → e.offset = 0 ∨ ∃ s ∈ Statement.all doc, e.offset = s.stop
  bounded : o.success = false → e.offset ≤ max x (i.destination doc x)
  short : o.success = false → i = .stepForward ∨ x < i.destination doc x → e.offset < i.destination doc x

namespace Intent
variable {i : Intent} {k m n : Nat}

theorem of_lt_limit (lt : m < i.limit k n) : m ≤ k ∨ m < n := by
  cases i with
  | stepForward => exact .inr lt
  | reset => exact absurd lt (Nat.not_lt_zero m)
  | _ =>
    have : m < max (k + 1) n := lt
    omega

/-- A motion forward fails on its way. -/
theorem lt_of_lt_limit (lt : m < i.limit k n) (forward : i = .stepForward ∨ k < n) : m < n := by
  rcases forward with rfl | ahead
  · exact lt
  · have := of_lt_limit lt
    omega

end Intent

namespace Engine
variable {doc : String} {e : Engine} {i : Intent} {k m n x : Nat}

theorem Covers.followed (covers : Covers doc k e) (target : endOf doc k = i.destination doc x) (t : Transaction) :
    i.Followed doc x (.done e.offset) (e.rested t) where
  shown := rfl
  arrived _ := covers.offset.trans target
  reset _ := rfl
  boundary failed := absurd failed (by simp [Outcome.done])
  bounded failed := absurd failed (by simp [Outcome.done])
  short failed := absurd failed (by simp [Outcome.done])

theorem Covers.notFollowed (covers : Covers doc m e) (lt : m < i.limit k n) (start : k ≤ (Statement.all doc).length)
    (bound : n ≤ (Statement.all doc).length) (target : endOf doc n = i.destination doc (endOf doc k)) (message : String)
    (t : Transaction) : i.Followed doc (endOf doc k) (.failure message e.offset) (e.rested t) where
  shown := rfl
  arrived success := absurd success (by simp [Outcome.failure])
  reset same := by
    subst same
    exact absurd lt (Nat.not_lt_zero m)
  boundary _ := by
    show e.offset = 0 ∨ ∃ s ∈ Statement.all doc, e.offset = s.stop
    rw [covers.offset]
    exact endOf_boundary covers.bound
  bounded _ := by
    show e.offset ≤ _
    rw [covers.offset, ← target]
    rcases Intent.of_lt_limit lt with le | lt
    · exact Nat.le_trans (endOf_le le start) (Nat.le_max_left _ _)
    · exact Nat.le_trans (endOf_le (Nat.le_of_lt lt) bound) (Nat.le_max_right _ _)
  short _ forward := by
    show e.offset < _
    rw [← target, endOf_lt_iff start bound] at forward
    rw [covers.offset, ← target, endOf_lt_iff covers.bound bound]
    exact Intent.lt_of_lt_limit lt forward

end Engine

/-- On one document, an operation arrives at its destination if it succeeds, and stops in order if it fails. -/
theorem success_means_arrived {settings : Settings} {c : Course} {doc : String} (reached : c.ReachedOn settings (· = doc))
    {e : Engine} (settled : c.Settled e) {e' : Engine} (present : e' = e ∨ ∃ version, e' = e.setDocument doc version)
    (i : Intent) :
    (e'.perform i).Leads anyProver (fun p _ => i.Followed e'.document e'.offset p.1 p.2) () := by
  have sound := Course.reachedOn_sound (Engine.coversOne_keeps doc) (Engine.opens_coversOne doc) reached
    (lawful_anyProver c.asked)
  have one : e.CoversOne doc := sound.2.settled settled
  obtain ⟨text, k, -, covers⟩ : e'.CoversOne doc := by
    rcases present with rfl | ⟨version, rfl⟩
    · exact one
    · exact one.setDocument version
  obtain rfl := covers.document
  obtain ⟨n, bound, target, leads⟩ :=
    Engine.act_arrives (s := ()) (reporting_attends fun _ => True) (covers.begun i) i
  apply Engine.performing_leads (Engine.attended_quiet (reporting_attends _)) i fun o e'' _ =>
    i.Followed e'.document e'.offset o e''
  refine leads.mono ?_ ?_
  · intro _ e₁ _ covers₁
    exact covers₁.followed target _
  · rintro fault e₁ _ ⟨⟨m, lt, covers₁⟩, -⟩
    have target' : endOf e'.document n = i.destination e'.document (endOf e'.document k) := by
      rw [← covers.offset]
      exact target
    rw [covers.offset]
    exact covers₁.notFollowed lt covers.bound bound target' _ _

/-- Behind the first of two statements, a motion to the end of the second arrives there, or ends before it. -/
theorem cursor_at_end_arrived : ∃ c : Course, (c.ReachedOn {} (· = "a. b.") ∧ c.Settled c.desk.engine) ∧
    c.desk.engine.offset = 2 ∧ (c.desk.engine.perform (.goToCursor 5)).Leads anyProver
      (fun p _ => (p.1.success = true → p.2.offset = 5) ∧ (p.1.success = false → p.2.offset < 5)) () := by
  have reachedOn : jumpingCourse.ReachedOn {} (· = "a. b.") :=
    ⟨.standard, Desk.ofSettings_default, sayingCourse_steps (· = "a. b.") rfl _⟩
  have settled : jumpingCourse.Settled jumpingCourse.desk.engine := .free (by decide +kernel)
  have target : (Intent.goToCursor 5).destination jumpingCourse.desk.engine.document jumpingCourse.desk.engine.offset =
    5 := by decide +kernel
  have offset : jumpingCourse.desk.engine.offset = 2 := by decide +kernel
  refine ⟨jumpingCourse, ⟨reachedOn, settled⟩, offset, ?_⟩
  refine (success_means_arrived reachedOn settled (.inl rfl) (.goToCursor 5)).mono ?_
  intro p _ followed
  refine ⟨fun success => (followed.arrived success).trans target, fun failed => ?_⟩
  have short := followed.short failed (.inr (by rw [target, offset]; decide))
  rwa [target] at short

end Frontier
