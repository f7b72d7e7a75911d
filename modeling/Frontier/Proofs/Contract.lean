import Frontier.Engine.Perform

/-!
# Contracts of dialogues

A contract says, situation by situation, what may be asked of the world outside and which answers may come, each
with the situation that it leads to. A dialogue leads to a condition under a contract if every question on every
way through it may be asked, and the condition holds wherever a way ends. The laws of `Act.Leads` follow the
building blocks of acts; what an act leads to is derived from what its parts lead to.
-/

namespace Frontier
variable {σ α β : Type}

/-- What may be asked in a situation, and which answers lead on to which situation. -/
structure Contract (σ : Type) where
  asks : σ → Query → Prop
  answers : σ → (q : Query) → q.Reply → σ → Prop

/-- Every question may be asked, and every way through the dialogue ends where the condition holds. -/
def Dialogue.Leads (C : Contract σ) : Dialogue α → (α → σ → Prop) → σ → Prop
  | .done a, post, s => post a s
  | .ask q next, post, s => C.asks s q ∧ ∀ r s', C.answers s q r s' → (next r).Leads C post s'

namespace Dialogue
variable {C : Contract σ}

@[simp] theorem leads_done (a : α) (post : α → σ → Prop) (s : σ) : (done a).Leads C post s ↔ post a s := Iff.rfl

@[simp] theorem leads_pure (a : α) (post : α → σ → Prop) (s : σ) :
    (pure a : Dialogue α).Leads C post s ↔ post a s := Iff.rfl

@[simp] theorem leads_query (q : Query) (post : q.Reply → σ → Prop) (s : σ) :
    (query q).Leads C post s ↔ C.asks s q ∧ ∀ r s', C.answers s q r s' → post r s' := Iff.rfl

@[simp] theorem leads_bind (d : Dialogue α) (f : α → Dialogue β) (post : β → σ → Prop) (s : σ) :
    (d >>= f).Leads C post s ↔ d.Leads C (fun a s => (f a).Leads C post s) s := by
  induction d generalizing s with
  | done a => rfl
  | ask q next ih => simp only [ask_bind, Leads, ih]

@[simp] theorem leads_map (d : Dialogue α) (f : α → β) (post : β → σ → Prop) (s : σ) :
    (f <$> d).Leads C post s ↔ d.Leads C (fun a s => post (f a) s) s := by
  rw [← bind_pure_comp, leads_bind]
  rfl

theorem Leads.mono {d : Dialogue α} {post post' : α → σ → Prop} {s : σ} (leads : d.Leads C post s)
    (weaker : ∀ a s, post a s → post' a s) : d.Leads C post' s := by
  induction d generalizing s with
  | done a => exact weaker a s leads
  | ask q next ih => exact ⟨leads.1, fun r s' answered => ih r (leads.2 r s' answered)⟩

theorem Leads.and {d : Dialogue α} {post post' : α → σ → Prop} {s : σ} (first : d.Leads C post s)
    (second : d.Leads C post' s) : d.Leads C (fun a s => post a s ∧ post' a s) s := by
  induction d generalizing s with
  | done a => exact ⟨first, second⟩
  | ask q next ih => exact ⟨first.1, fun r s' answered => ih r (first.2 r s' answered) (second.2 r s' answered)⟩

end Dialogue

/-- A condition on what an act returns and one on its failure, as a condition on both. -/
def Act.Ends (ok : α → Engine → σ → Prop) (failed : Fault → Engine → σ → Prop) : Except Fault α × Engine → σ → Prop
  | (.ok a, e), s => ok a e s
  | (.error fault, e), s => failed fault e s

/-- Every way through the act ends where one of the conditions holds: the first if the act returns, the second if
it fails. -/
def Act.Leads (C : Contract σ) (act : Act α) (ok : α → Engine → σ → Prop) (failed : Fault → Engine → σ → Prop)
    (e : Engine) (s : σ) : Prop :=
  (act.run.run e).Leads C (Act.Ends ok failed) s

namespace Act
variable {C : Contract σ} {ok : α → Engine → σ → Prop} {failed : Fault → Engine → σ → Prop} {e : Engine} {s : σ}

@[simp] theorem leads_pure (a : α) : (pure a : Act α).Leads C ok failed e s ↔ ok a e s := Iff.rfl

@[simp] theorem leads_throw (fault : Fault) : (throw fault : Act α).Leads C ok failed e s ↔ failed fault e s :=
  Iff.rfl

@[simp] theorem leads_bind (act : Act β) (f : β → Act α) :
    (act >>= f).Leads C ok failed e s ↔ act.Leads C (fun b e s => (f b).Leads C ok failed e s) failed e s := by
  unfold Act.Leads
  rw [ExceptT.run_bind, StateT.run_bind, Dialogue.leads_bind]
  apply iff_of_eq
  congr
  funext p s
  rcases p with ⟨_ | _, _⟩ <;> rfl

@[simp] theorem leads_map (act : Act β) (f : β → α) :
    (f <$> act).Leads C ok failed e s ↔ act.Leads C (fun b e s => ok (f b) e s) failed e s := by
  rw [← bind_pure_comp, leads_bind]
  rfl

@[simp] theorem leads_get {ok : Engine → Engine → σ → Prop} :
    (get : Act Engine).Leads C ok failed e s ↔ ok e e s := Iff.rfl

@[simp] theorem leads_modify {ok : PUnit → Engine → σ → Prop} (f : Engine → Engine) :
    (modify f : Act PUnit).Leads C ok failed e s ↔ ok ⟨⟩ (f e) s := Iff.rfl

@[simp] theorem leads_ask (q : Query) {ok : q.Reply → Engine → σ → Prop} :
    Leads (α := no_index q.Reply) C (ask q) ok failed e s ↔
      C.asks s q ∧ ∀ r s', C.answers s q r s' → ok r e s' := Iff.rfl

@[simp] theorem leads_attempt (act : Act β) {ok : Except Fault β → Engine → σ → Prop} :
    act.attempt.Leads C ok failed e s ↔
      act.Leads C (fun b e s => ok (.ok b) e s) (fun fault e s => ok (.error fault) e s) e s := by
  have step : ∀ p s, Ends ok failed (.ok p.1, p.2) s ↔
      Ends (fun b e s => ok (.ok b) e s) (fun fault e s => ok (.error fault) e s) p s := by
    rintro ⟨_ | _, _⟩ s <;> rfl
  have run : act.attempt.run.run e = act.run.run e >>= fun p => pure (.ok p.1, p.2) := rfl
  unfold Act.Leads
  rw [run, Dialogue.leads_bind]
  simp only [Dialogue.leads_pure, step]

@[simp] theorem leads_orFail (r : Except Fault α) :
    (orFail r).Leads C ok failed e s ↔ Ends ok failed (r, e) s := by
  cases r <;> rfl

@[simp] theorem ends_ok (a : α) : Ends ok failed (.ok a, e) s ↔ ok a e s := Iff.rfl

@[simp] theorem ends_error (fault : Fault) : Ends ok failed (.error fault, e) s ↔ failed fault e s := Iff.rfl

theorem Leads.mono {act : Act α} {ok' : α → Engine → σ → Prop} {failed' : Fault → Engine → σ → Prop}
    (leads : act.Leads C ok failed e s) (weaker : ∀ a e s, ok a e s → ok' a e s)
    (fails : ∀ fault e s, failed fault e s → failed' fault e s) : act.Leads C ok' failed' e s := by
  apply Dialogue.Leads.mono leads
  rintro ⟨_ | _, _⟩ s
  · exact fails _ _ _
  · exact weaker _ _ _

theorem Leads.and {act : Act α} {ok' : α → Engine → σ → Prop} {failed' : Fault → Engine → σ → Prop}
    (first : act.Leads C ok failed e s) (second : act.Leads C ok' failed' e s) :
    act.Leads C (fun a e s => ok a e s ∧ ok' a e s) (fun fault e s => failed fault e s ∧ failed' fault e s) e s := by
  apply (Dialogue.Leads.and first second).mono
  rintro ⟨_ | _, _⟩ s both
  · exact both
  · exact both

end Act

/-! ## Operations

An operation wraps an act in a transaction and tells the host what came of it. -/

/-- Every way through a dialogue on an engine ends where the condition holds. -/
def Engine.Leads (C : Contract σ) (work : StateT Engine Dialogue α) (post : α → Engine → σ → Prop) (e : Engine)
    (s : σ) : Prop :=
  (work.run e).Leads C (fun p s => post p.1 p.2 s) s

namespace Engine
variable {C : Contract σ} {post : α → Engine → σ → Prop} {e : Engine} {s : σ}

@[simp] theorem leads_pure (a : α) : Leads C (pure a) post e s ↔ post a e s := Iff.rfl

@[simp] theorem leads_bind (work : StateT Engine Dialogue β) (f : β → StateT Engine Dialogue α) :
    Leads C (work >>= f) post e s ↔ Leads C work (fun b e s => Leads C (f b) post e s) e s := by
  unfold Leads
  rw [StateT.run_bind, Dialogue.leads_bind]

@[simp] theorem leads_get {post : Engine → Engine → σ → Prop} : Leads C get post e s ↔ post e e s := Iff.rfl

@[simp] theorem leads_modify {post : PUnit → Engine → σ → Prop} (f : Engine → Engine) :
    Leads C (modify f) post e s ↔ post ⟨⟩ (f e) s := Iff.rfl

@[simp] theorem leads_query (q : Query) {post : q.Reply → Engine → σ → Prop} :
    Leads (α := no_index q.Reply) C (liftM (Dialogue.query q)) post e s ↔
      C.asks s q ∧ ∀ r s', C.answers s q r s' → post r e s' := by
  rfl

theorem ofSettings_ok {settings : Settings} {e : Engine} (made : Engine.ofSettings settings = .ok e) :
    ∃ rules, settings.rules = .ok rules ∧ e = { settings, rules, undo := .startingAt rules.initialId } := by
  cases read : settings.rules with
  | error fault => simp [Engine.ofSettings, read, Except.map] at made
  | ok rules =>
    simp only [Engine.ofSettings, read, Except.map, Except.ok.injEq] at made
    exact ⟨rules, rfl, made.symm⟩

/-- The engine at the beginning of an operation. -/
def begun (e : Engine) (i : Intent) : Engine :=
  { e with
    outline := (e.outline.update e.document e.version).1
    activity := i.activity
    transactions := (e.transactions.begin i.reason).1 }

/-- The engine after an operation of a transaction. -/
def rested (e : Engine) (t : Transaction) : Engine :=
  { e with activity := .idle, transactions := (e.transactions.finish t).1 }

/-- Neither telling the host something nor asking for the time changes the situation. -/
structure Quiet (C : Contract σ) : Prop where
  publish : ∀ s n, C.asks s (.publish n) ∧ ∀ r s', C.answers s (.publish n) r s' → s' = s
  time : ∀ s, C.asks s .time ∧ ∀ r s', C.answers s .time r s' → s' = s

theorem Quiet.leads_publish (quiet : Quiet C) (n : Notification) {post : Unit → Engine → σ → Prop}
    (next : post () e s) : Leads C (liftM (Dialogue.query (.publish n))) post e s := by
  refine (leads_query _).mpr ⟨(quiet.publish s n).1, fun r s' answered => ?_⟩
  rw [(quiet.publish s n).2 r s' answered]
  exact next

theorem Quiet.leads_time (quiet : Quiet C) {post : Timestamp → Engine → σ → Prop} (next : ∀ time, post time e s) :
    Leads C (liftM (Dialogue.query .time)) post e s := by
  refine (leads_query _).mpr ⟨(quiet.time s).1, fun r s' answered => ?_⟩
  rw [(quiet.time s).2 r s' answered]
  exact next r

theorem outcome_leads (t : Transaction) (result : Except Fault Unit) {post : Outcome → Engine → σ → Prop}
    (ended : Act.Ends (fun _ e s => post (.done e.offset) (e.rested t) s)
      (fun fault e s => post (.failure fault.message e.offset) (e.rested t) s) (result, e) s) :
    Leads C (pure (match (match result with
      | .ok () => none
      | .error fault => some fault.message) with
      | none => Outcome.done e.offset
      | some message => Outcome.failure message e.offset)) post (e.rested t) s := by
  cases result with
  | ok _ => exact ended
  | error fault => exact ended

theorem finish_leads (quiet : Quiet C) (t : Transaction) (start : Nat) (result : Except Fault Unit)
    {post : Outcome → Engine → σ → Prop}
    (ended : Act.Ends (fun _ e s => post (.done e.offset) (e.rested t) s)
      (fun fault e s => post (.failure fault.message e.offset) (e.rested t) s) (result, e) s) :
    Leads C (finish t start result) post e s := by
  have outcome := outcome_leads (C := C) t result ended
  simp only [finish, leads_bind, leads_get, leads_modify]
  split
  · rw [leads_bind]
    apply quiet.leads_publish
    split
    · rw [leads_bind]
      apply quiet.leads_time
      intro time
      rw [leads_bind]
      apply quiet.leads_publish
      exact outcome
    · exact outcome
  · split
    · rw [leads_bind]
      apply quiet.leads_time
      intro time
      rw [leads_bind]
      apply quiet.leads_publish
      exact outcome
    · exact outcome

theorem performing_leads (quiet : Quiet C) (i : Intent) (post : Outcome → Engine → σ → Prop)
    (acts : (act i).Leads C
      (fun _ e' s' => post (.done e'.offset) (e'.rested (e.transactions.begin i.reason).2) s')
      (fun fault e' s' => post (.failure fault.message e'.offset) (e'.rested (e.transactions.begin i.reason).2) s')
      (e.begun i) s) :
    (perform e i).Leads C (fun p s' => post p.1 p.2 s') s := by
  have runs : perform e i = (act i).run.run (e.begun i) >>= fun p =>
      (finish (e.transactions.begin i.reason).2 e.offset p.1).run p.2 := rfl
  rw [runs, Dialogue.leads_bind]
  refine Dialogue.Leads.mono acts ?_
  rintro ⟨result, e'⟩ s' ended
  apply finish_leads quiet
  exact ended

end Engine
end Frontier
