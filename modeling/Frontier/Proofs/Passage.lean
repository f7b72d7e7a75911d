import Frontier.Proofs.Contract

/-!
# Ways through an operation

Whatever is asked for, an operation is made of a few steps: commands, an attempt to undo, a start and a stop of the
process. Conditions that these steps keep are kept on every way that an operation may take.
-/

namespace Frontier.Engine
variable {σ : Type}

/-- Conditions on the engine and the situation that the steps of a motion forward keep, over statements of a kind: one
that holds at any time, one that allows for commands, and one that is left when a batch could not be taken back and the
process is given up. The statements that were verified before are of the kind then. -/
structure Advance (C : Contract σ) (Fits : Statement → Prop) (Kept Known Adrift : Engine → σ → Prop) : Prop where
  kept : ∀ {e s}, Known e s → Kept e s
  adrift : ∀ {e s}, Kept e s → Adrift e s
  verified : ∀ {e s}, Adrift e s → ∀ stmt ∈ e.outline.upTo e.offset, Fits stmt
  executes : ∀ {e s stmt}, Fits stmt → Known e s → (executeSingle stmt).Leads C (fun _ => Known) (fun _ => Kept) e s
  batches : ∀ {e s ss}, ss ≠ [] → (∀ stmt ∈ ss, Fits stmt) → Known e s → (executeBatch ss).Leads C
    (fun result e' s' => match result with
      | .accepted => Known e' s'
      | .rejected state => (rewindBatch e.undo.current state).Leads C
        (fun rewound e'' s'' => if rewound then Known e'' s'' else Adrift e'' s'') (fun _ => Kept) e' s')
    (fun _ => Kept) e s
  halts : ∀ {e s}, Adrift e s → haltSession.Leads C (fun _ => Kept) (fun _ => Kept) e s
  starts : ∀ {e s}, Kept e s → startSession.Leads C (fun _ => Known) (fun _ => Kept) e s

/-- Conditions that all steps of an operation keep. -/
structure Passage (C : Contract σ) (Kept Known Adrift : Engine → σ → Prop) : Prop
    extends Advance C (fun _ => True) Kept Known Adrift where
  noted : ∀ {e s} activity, Kept e s → Kept { e with activity } s
  readies : ∀ {e s}, Kept e s → ready.Leads C (fun free e' s' => e' = e ∧ Kept e s' ∧ (free = true → Known e s'))
    (fun _ _ _ => False) e s
  undoes : ∀ {e s} target, Kept e s → (tryUndo target).Leads C (fun _ => Kept) (fun _ => Kept) e s
  resets : ∀ {e s}, Kept e s → reset.Leads C (fun _ => Kept) (fun _ => Kept) e s

variable {C : Contract σ} {Fits : Statement → Prop} {Kept Known Adrift : Engine → σ → Prop} {e : Engine} {s : σ}

namespace Advance
variable (advance : Advance C Fits Kept Known Adrift)
include advance

theorem replay_keeps {ss : List Statement} (fit : ∀ stmt ∈ ss, Fits stmt) (known : Known e s) :
    (replay ss).Leads C (fun _ => Known) (fun _ => Kept) e s := by
  induction ss generalizing e s with
  | nil => exact known
  | cons stmt rest ih =>
    obtain ⟨first, others⟩ := List.forall_mem_cons.mp fit
    unfold replay
    simp only [Act.leads_bind, Act.leads_get]
    by_cases ahead : e.offset < stmt.stop
    · simp only [ahead, ↓reduceIte, Act.leads_bind]
      exact (advance.executes first known).mono (fun _ _ _ known₁ => ih others known₁) (fun _ _ _ kept => kept)
    · simpa [ahead] using ih others known

theorem restartAndReplay_keeps {ss : List Statement} (fit : ∀ stmt ∈ ss, Fits stmt) (adrift : Adrift e s) :
    (restartAndReplay ss).Leads C (fun _ => Known) (fun _ => Kept) e s := by
  have all : ∀ stmt ∈ e.outline.upTo e.offset ++ ss, Fits stmt := by
    intro stmt mem
    rcases List.mem_append.mp mem with before | mem
    · exact advance.verified adrift stmt before
    · exact fit stmt mem
  simp only [restartAndReplay, Act.leads_bind, Act.leads_get]
  refine (advance.halts adrift).mono ?_ (fun _ _ _ kept => kept)
  intro _ e₁ s₁ kept₁
  refine (advance.starts kept₁).mono ?_ (fun _ _ _ kept => kept)
  exact fun _ e₂ s₂ known₂ => advance.replay_keeps all known₂

theorem forwardThrough_keeps {ss : List Statement} (some : ss ≠ []) (fit : ∀ stmt ∈ ss, Fits stmt) (known : Known e s) :
    (forwardThrough ss).Leads C (fun _ => Known) (fun _ => Kept) e s := by
  unfold forwardThrough
  split
  · next stmt => exact advance.executes (fit stmt (List.mem_singleton_self stmt)) known
  · simp only [Act.leads_bind, Act.leads_get, Act.leads_attempt]
    apply (advance.batches some fit known).mono
    · intro result e₁ s₁ batched
      cases result with
      | accepted => exact batched
      | rejected state =>
        -- Taken back, the statements are sent one by one; if that fails, to a new process.
        simp only [Act.leads_bind]
        refine batched.mono ?_ (fun _ _ _ kept => kept)
        intro rewound e₂ s₂ left
        cases rewound with
        | true => exact advance.replay_keeps fit left
        | false => exact advance.restartAndReplay_keeps fit left
    · intro fault e₁ s₁ kept₁
      split
      · exact advance.restartAndReplay_keeps fit (advance.adrift kept₁)
      · exact kept₁

end Advance

namespace Passage
variable (passage : Passage C Kept Known Adrift)
include passage

theorem recoverTo_keeps (target : Nat) (kept : Kept e s) :
    (recoverTo target).Leads C (fun _ => Known) (fun _ => Kept) e s := by
  simp only [recoverTo, Act.leads_bind, Act.leads_get, Act.leads_modify]
  refine (passage.halts (passage.adrift (passage.noted _ kept))).mono ?_ (fun _ _ _ kept => kept)
  intro _ e₁ s₁ kept₁
  refine (passage.starts kept₁).mono ?_ (fun _ _ _ kept => kept)
  intro _ e₂ s₂ known₂
  split
  · next some => exact passage.forwardThrough_keeps (by simpa using some) (fun _ _ => trivial) known₂
  · exact known₂

theorem backwardTo_keeps (target : Nat) (kept : Kept e s) :
    (backwardTo target).Leads C (fun _ => Kept) (fun _ => Kept) e s := by
  simp only [backwardTo, Act.leads_bind, Act.leads_get]
  split
  · simp only [Act.leads_bind]
    refine (passage.undoes target kept).mono ?_ (fun _ _ _ kept => kept)
    intro undone e₁ s₁ kept₁
    split
    · exact (passage.recoverTo_keeps target kept₁).mono (fun _ _ _ known => passage.kept known) (fun _ _ _ kept => kept)
    · exact kept₁
  · exact kept

theorem ensureSession_keeps (kept : Kept e s) :
    ensureSession.Leads C (fun _ => Known) (fun _ => Kept) e s := by
  simp only [ensureSession, Act.leads_bind]
  refine (passage.readies kept).mono ?_ (fun _ _ _ absurd => absurd.elim)
  rintro free _ s₁ ⟨rfl, kept₁, known⟩
  cases free with
  | true => exact known rfl
  | false =>
    simp only [Bool.not_false, ↓reduceIte, Act.leads_bind, Act.leads_get]
    split
    · exact passage.starts kept₁
    · simp only [Act.leads_bind, Act.leads_get]
      refine (passage.recoverTo_keeps _ kept₁).mono ?_ (fun _ _ _ kept => kept)
      intro _ e₂ s₂ known₂
      split
      · exact passage.kept known₂
      · exact known₂

/-- Whatever an intent asks for, the condition is kept. -/
theorem act_keeps (i : Intent) (kept : Kept e s) : (act i).Leads C (fun _ => Kept) (fun _ => Kept) e s := by
  have settles : ∀ {work : Act Unit} {e : Engine} {s : σ}, work.Leads C (fun _ => Known) (fun _ => Kept) e s →
      work.Leads C (fun _ => Kept) (fun _ => Kept) e s :=
    fun leads => leads.mono (fun _ _ _ known => passage.kept known) (fun _ _ _ kept => kept)
  cases i with
  | stepForward =>
    simp only [act, stepForward, Act.leads_bind, Act.leads_get]
    split
    · simp only [Act.leads_bind, Act.leads_get]
      refine (passage.ensureSession_keeps kept).mono ?_ (fun _ _ _ kept => kept)
      intro _ e₁ s₁ known₁
      split
      · exact settles (passage.executes trivial known₁)
      · exact passage.kept known₁
    · exact kept
  | stepBackward =>
    simp only [act, stepBackward, Act.leads_bind, Act.leads_get]
    split
    · exact passage.backwardTo_keeps _ kept
    · exact kept
  | goToCursor cursor =>
    simp only [act, goToCursor, Act.leads_bind, Act.leads_get]
    split
    · simp only [Act.leads_bind, Act.leads_modify]
      exact passage.backwardTo_keeps _ (passage.noted _ kept)
    · split
      · simp only [Act.leads_bind, Act.leads_get]
        refine (passage.ensureSession_keeps kept).mono ?_ (fun _ _ _ kept => kept)
        intro _ e₁ s₁ known₁
        split
        · next some => exact settles (passage.forwardThrough_keeps (by simpa using some) (fun _ _ => trivial) known₁)
        · exact passage.kept known₁
      · exact kept
  | recover =>
    simp only [act, Act.leads_bind, Act.leads_get]
    exact settles (passage.recoverTo_keeps e.offset kept)
  | retract edit =>
    simp only [act, retract, Act.leads_bind, Act.leads_get]
    split
    · exact passage.backwardTo_keeps _ kept
    · exact kept
  | reset => exact passage.resets kept

end Passage
end Frontier.Engine
