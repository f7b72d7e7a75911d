import Frontier.Proofs.Bookkeeping

/-!
# What operations leave alone

Acts change the undo log, the end of the verified region and its count, the activity, the gate and what is kept of the
last answer; only a reset reads the document anew. So the document is changed by hosts alone, and the transactions are
those of the operation.
-/

namespace Frontier

/-- The document that an engine has, and its version. -/
def Engine.text (e : Engine) : String × Int := (e.document, e.version)

/-- A condition that does not look at what acts change, and that reading the document anew does not break. -/
structure Engine.Stable (P : Engine → Prop) : Prop where
  changed : ∀ {e : Engine} undo offset proved activity inFlight startupPending lastOutput, P e →
    P { e with undo, offset, proved, activity, inFlight, startupPending, lastOutput }
  reread : ∀ {e : Engine}, P e → P { e with outline := (e.outline.clear.update e.document e.version).1 }

theorem Engine.stable_text (text : String × Int) : Engine.Stable (·.text = text) where
  changed _ _ _ _ _ _ _ same := same
  reread same := same

/-- An act keeps a condition, whether it succeeds or not. -/
def Act.Keeps {α : Type} (P : Engine → Prop) (act : Act α) : Prop :=
  ∀ e, P e → act.Leads anyProver (fun _ e' _ => P e') (fun _ e' _ => P e') e ()

namespace Act
variable {α β : Type} {P : Engine → Prop}

theorem keeps_pure (a : α) : Keeps P (pure a) := fun _ holds => holds

theorem keeps_throw (fault : Fault) : Keeps P (throw fault : Act α) := fun _ holds => holds

theorem keeps_get : Keeps P (get : Act Engine) := fun _ holds => holds

theorem keeps_modify {f : Engine → Engine} (keeps : ∀ e, P e → P (f e)) : Keeps P (modify f) := keeps

theorem keeps_change (stable : Engine.Stable P) {f : Engine → Engine}
    (changes : ∀ e, f e = { f e with
      settings := e.settings, rules := e.rules, document := e.document, version := e.version, outline := e.outline,
      transactions := e.transactions }) : Keeps P (modify f) := by
  refine keeps_modify fun e holds => ?_
  rw [changes e]
  exact stable.changed _ _ _ _ _ _ _ holds

theorem keeps_ask (q : Query) : (ask q).Keeps P := fun _ holds => ⟨trivial, fun _ _ _ => holds⟩

theorem keeps_orFail (r : Except Fault α) : (orFail r).Keeps P := by
  cases r with
  | ok a => exact keeps_pure a
  | error fault => exact keeps_throw fault

theorem Keeps.bind {act : Act α} {next : α → Act β} (first : act.Keeps P) (second : ∀ a, (next a).Keeps P) :
    (act >>= next).Keeps P := by
  intro e holds
  rw [Act.leads_bind]
  exact (first e holds).mono (fun a e₁ _ holds₁ => second a e₁ holds₁) (fun _ _ _ holds₁ => holds₁)

theorem Keeps.attempt {act : Act α} (keeps : act.Keeps P) : act.attempt.Keeps P := by
  intro e holds
  rw [Act.leads_attempt]
  exact keeps e holds

theorem Keeps.ite {p : Prop} [Decidable p] {act other : Act α} (yes : act.Keeps P) (no : other.Keeps P) :
    (if p then act else other).Keeps P := by
  split
  · exact yes
  · exact no

end Act

namespace Engine
open Act
variable {P : Engine → Prop} (stable : Stable P)
include stable

omit stable in
theorem takeStale_keeps (c : Counter) (events : List Event) : (takeStale c events).Keeps P := by
  induction events generalizing c with
  | nil => exact keeps_pure c
  | cons event rest ih =>
    cases event with
    | output chunk => exact .bind (keeps_ask _) fun _ => ih _
    | complaint line => exact .bind (keeps_ask _) fun _ => ih c
    | exited code expected => exact keeps_throw _

omit stable in
theorem exchange_keeps (text : String) (x : Exchange) : (exchange text x).Keeps P :=
  .bind (keeps_ask _) fun sent => .bind (keeps_orFail sent) fun _ => .bind (keeps_ask _) fun _ => keeps_orFail _

theorem roundTrip_keeps (text : String) (expected : Nat) : (roundTrip text expected).Keeps P := by
  have gate : ∀ inFlight, (modify ({ · with inFlight }) : Act PUnit).Keeps P :=
    fun inFlight => keeps_change stable fun _ => rfl
  refine .bind keeps_get fun e => .ite (keeps_throw _) (.bind (keeps_ask _) fun events => ?_)
  refine .bind (takeStale_keeps _ events) fun counter => .bind (gate true) fun _ => ?_
  refine .bind (exchange_keeps text _).attempt fun result => ?_
  cases result with
  | ok counter => exact .bind (gate false) fun _ => keeps_pure _
  | error fault => exact .ite (.bind (gate false) fun _ => keeps_throw fault) (keeps_throw fault)

theorem submit_keeps (text : String) (expected : Nat) : (submit text expected).Keeps P := by
  refine .bind (roundTrip_keeps stable text expected).attempt fun result => ?_
  cases result with
  | ok response => exact .bind (keeps_change stable fun _ => rfl) fun _ => keeps_pure _
  | error fault =>
    refine .ite (.bind (keeps_change stable fun _ => rfl) fun _ => ?_) (keeps_throw _)
    exact .bind (keeps_ask _) fun _ => keeps_throw _

theorem startSession_keeps : startSession.Keeps P := by
  refine .bind (keeps_ask _) fun greeting => .bind (keeps_orFail greeting) fun _ => ?_
  exact keeps_change stable fun _ => rfl

omit stable in
theorem haltSession_keeps : haltSession.Keeps P := .bind keeps_get fun _ => keeps_ask _

theorem executeSingle_keeps (s : Statement) : (executeSingle s).Keeps P := by
  refine .bind keeps_get fun e => .bind (keeps_change stable fun _ => rfl) fun _ => ?_
  refine .bind (submit_keeps stable _ _) fun r => ?_
  cases r.error with
  | some error => exact .bind (keeps_throw _) fun _ => keeps_change stable fun _ => rfl
  | none => exact keeps_change stable fun _ => rfl

theorem executeBatch_keeps (ss : List Statement) : (executeBatch ss).Keeps P := by
  refine .bind (submit_keeps stable _ _) fun r => .ite (.bind keeps_get fun _ => keeps_pure _) ?_
  exact .bind (keeps_change stable fun _ => rfl) fun _ => keeps_pure _

theorem rewindBatch_keeps (before state : Nat) : (rewindBatch before state).Keeps P := by
  refine .ite (keeps_pure _) (.bind keeps_get fun e => .ite (keeps_pure _) ?_)
  refine .bind (submit_keeps stable _ _).attempt fun answer => ?_
  cases answer with
  | error fault => exact keeps_pure _
  | ok r =>
    exact .ite (.bind (keeps_change stable fun _ => rfl) fun _ => keeps_pure _) (keeps_pure _)

theorem replay_keeps (ss : List Statement) : (replay ss).Keeps P := by
  induction ss with
  | nil => exact keeps_pure _
  | cons s rest ih => exact .bind keeps_get fun e => .ite (.bind (executeSingle_keeps stable s) fun _ => ih) ih

theorem restartAndReplay_keeps (ss : List Statement) : (restartAndReplay ss).Keeps P :=
  .bind keeps_get fun _ => .bind haltSession_keeps fun _ => .bind (startSession_keeps stable) fun _ =>
    replay_keeps stable _

theorem forwardThrough_keeps (ss : List Statement) : (forwardThrough ss).Keeps P := by
  unfold forwardThrough
  split
  · exact executeSingle_keeps stable _
  refine .bind keeps_get fun e => .bind (executeBatch_keeps stable _).attempt fun result => ?_
  rcases result with fault | ⟨⟩ | state
  · exact .ite (restartAndReplay_keeps stable _) (keeps_throw _)
  · exact keeps_pure _
  · exact .bind (rewindBatch_keeps stable _ _) fun _ => .ite (replay_keeps stable _) (restartAndReplay_keeps stable _)

theorem recoverTo_keeps (target : Nat) : (recoverTo target).Keeps P := by
  refine .bind (keeps_change stable fun _ => rfl) fun _ => ?_
  refine .bind haltSession_keeps fun _ => .bind (startSession_keeps stable) fun _ => ?_
  exact .bind keeps_get fun _ => .ite (forwardThrough_keeps stable _) (keeps_pure _)

theorem tryUndo_keeps (target : Nat) : (tryUndo target).Keeps P := by
  refine .bind keeps_get fun e => .ite (keeps_pure _) (.ite (keeps_pure _) (.bind (keeps_ask _) fun running => ?_))
  refine .ite (keeps_pure _) (.ite (.bind (keeps_change stable fun _ => rfl) fun _ => keeps_pure _) ?_)
  dsimp only
  split
  · exact keeps_pure _
  refine .bind (submit_keeps stable _ _).attempt fun answer => ?_
  cases answer with
  | error fault => exact keeps_pure _
  | ok r =>
    exact .ite (keeps_pure _) (.bind (keeps_change stable fun _ => rfl) fun _ => keeps_pure _)

theorem backwardTo_keeps (target : Nat) : (backwardTo target).Keeps P := by
  refine .bind keeps_get fun _ => .ite (.bind (tryUndo_keeps stable _) fun _ => ?_) (keeps_pure _)
  exact .ite (recoverTo_keeps stable _) (keeps_pure _)

omit stable in
theorem ready_keeps : ready.Keeps P := .bind (keeps_ask _) fun _ => .bind keeps_get fun _ => keeps_pure _

theorem ensureSession_keeps : ensureSession.Keeps P := by
  refine .bind ready_keeps fun _ => .ite (.bind keeps_get fun e => .ite (startSession_keeps stable) ?_) (keeps_pure _)
  exact .bind (recoverTo_keeps stable _) fun _ => .bind keeps_get fun _ => .ite (keeps_throw _) (keeps_pure _)

theorem stepForward_keeps : stepForward.Keeps P := by
  refine .bind keeps_get fun e => .ite (.bind (ensureSession_keeps stable) fun _ => ?_) (keeps_pure _)
  refine .bind keeps_get fun e' => ?_
  split
  · exact executeSingle_keeps stable _
  · exact keeps_pure _

theorem goToCursor_keeps (cursor : Nat) : (goToCursor cursor).Keeps P := by
  refine .bind keeps_get fun e => .ite ?_ (.ite ?_ (keeps_pure _))
  · refine .bind (keeps_change stable fun _ => rfl) fun _ => ?_
    exact backwardTo_keeps stable _
  · refine .bind (ensureSession_keeps stable) fun _ => .bind keeps_get fun _ => ?_
    exact .ite (forwardThrough_keeps stable _) (keeps_pure _)

theorem reset_keeps : reset.Keeps P :=
  .bind haltSession_keeps fun _ => keeps_modify fun _ holds => stable.changed _ _ _ _ _ _ _ (stable.reread holds)

/-- Acts keep what does not look at what they change. -/
theorem act_keeps (i : Intent) : (act i).Keeps P := by
  cases i with
  | stepForward => exact stepForward_keeps stable
  | stepBackward => exact .bind keeps_get fun _ => .ite (backwardTo_keeps stable _) (keeps_pure _)
  | goToCursor cursor => exact goToCursor_keeps stable cursor
  | recover => exact .bind keeps_get fun _ => recoverTo_keeps stable _
  | retract edit => exact .bind keeps_get fun _ => .ite (backwardTo_keeps stable _) (keeps_pure _)
  | reset => exact reset_keeps stable

omit stable in
/-- No operation changes the document. -/
theorem perform_keeps (e : Engine) (i : Intent) : (e.perform i).Leads anyProver (fun p _ => p.2.text = e.text) () := by
  apply performing_leads (attended_quiet (reporting_attends _)) i fun _ e' _ => e'.text = e.text
  exact act_keeps (stable_text e.text) i (e.begun i) rfl

end Engine

/-- What holds whatever is answered holds under every contract. -/
theorem Dialogue.Leads.always {σ α : Type} {C : Contract σ} {d : Dialogue α} {post : α → σ → Prop} {P : α → Prop}
    {s : σ} (leads : d.Leads C post s) (always : d.Leads anyProver (fun a _ => P a) ()) :
    d.Leads C (fun a s => post a s ∧ P a) s := by
  induction d generalizing s with
  | done a => exact ⟨leads, always⟩
  | ask q next ih =>
    refine ⟨leads.1, fun r s' answered => ih r (leads.2 r s' answered) (always.2 r () ⟨?_, rfl⟩)⟩
    exact lawful_anyProver [⟨q, r⟩] [] ⟨q, r⟩ [] rfl

end Frontier
