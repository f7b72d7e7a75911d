import Frontier.Proofs.Contract
import Frontier.Proofs.UndoLog

/-!
# Engines that act alike

A statement that the prover rejected leaves traces in the engine: it stays announced in the undo log, its answer is kept
as the last output, and a transaction was used up for it. Nothing that the engine does depends on them. Engines that
differ in these alone carry out every intent alike: whatever is answered, they ask the same, come to the same outcome,
and differ in these alone again. What is told of a result has the next number, and perhaps another text.
-/

namespace Frontier
variable {α β γ δ : Type}

/-! ## Dialogues -/

/-- Dialogues that ask alike, whatever is answered, and end in a relation. -/
inductive Dialogue.Alike (R : α → β → Prop) : Dialogue α → Dialogue β → Prop
  | done {a b} (related : R a b) : Alike R (.done a) (.done b)
  | ask (q : Query) {next : q.Reply → Dialogue α} {next' : q.Reply → Dialogue β}
    (alike : ∀ r, Alike R (next r) (next' r)) : Alike R (.ask q next) (.ask q next')
  | result (p : Publication) (output : String) {next : Unit → Dialogue α} {next' : Unit → Dialogue β}
    (alike : ∀ r, Alike R (next r) (next' r)) :
    Alike R (.ask (.publish (.proofState p)) next)
      (.ask (.publish (.proofState { p with transaction := p.transaction + 1, output })) next')

namespace Dialogue
variable {R : α → β → Prop} {S : γ → δ → Prop} {d : Dialogue α} {d' : Dialogue β}

theorem Alike.bind (alike : d.Alike R d') {f : α → Dialogue γ} {f' : β → Dialogue δ}
    (next : ∀ a b, R a b → (f a).Alike S (f' b)) : (d >>= f).Alike S (d' >>= f') := by
  induction alike with
  | done related => exact next _ _ related
  | ask q _ ih => exact .ask q ih
  | result p output _ ih => exact .result p output ih

theorem Alike.mono {R' : α → β → Prop} (alike : d.Alike R d') (weaker : ∀ a b, R a b → R' a b) : d.Alike R' d' := by
  induction alike with
  | done related => exact .done (weaker _ _ related)
  | ask q _ ih => exact .ask q ih
  | result p output _ ih => exact .result p output ih

end Dialogue

/-! ## Undo logs -/

namespace UndoLog
variable {l l' : UndoLog}

/-- Logs that differ at most in the statement that is announced. -/
def Alike (l l' : UndoLog) : Prop := ∃ awaited, l' = { l with awaited }

theorem Alike.refl (l : UndoLog) : l.Alike l := ⟨l.awaited, rfl⟩

/-- A record overwrites the announcement of a log that is in order, and leaves one that is not as it is. -/
theorem Alike.record (record : UndoLog → UndoLog) (alike : l.Alike l')
    (overwrites : l.valid = true → ∀ awaited, record { l with awaited } = record l)
    (leaves : ∀ l : UndoLog, l.valid = false → record l = l) : (record l).Alike (record l') := by
  obtain ⟨awaited, rfl⟩ := alike
  cases valid : l.valid with
  | true =>
    rw [overwrites valid awaited]
    exact .refl _
  | false =>
    rw [leaves l valid, leaves { l with awaited } valid]
    exact ⟨awaited, rfl⟩

theorem Alike.invalidate (alike : l.Alike l') (reason : Disorder) :
    (l.invalidate reason).Alike (l'.invalidate reason) := by
  refine alike.record (UndoLog.invalidate · reason) ?_ ?_
  · intro valid awaited
    have valid' : ({ l with awaited } : UndoLog).valid = true := valid
    simp only [UndoLog.invalidate, valid, valid', ↓reduceIte]
  · intro l broken
    simp [UndoLog.invalidate, broken]

theorem Alike.acknowledgeBatch (alike : l.Alike l') (index count : Nat) (ids : List Nat) :
    (l.acknowledgeBatch index count ids).1.Alike (l'.acknowledgeBatch index count ids).1 := by
  refine alike.record (fun l => (l.acknowledgeBatch index count ids).1) ?_ ?_
  · intro valid awaited
    have valid' : ({ l with awaited } : UndoLog).valid = true := valid
    simp only [UndoLog.acknowledgeBatch, valid, valid']
    rfl
  · intro l broken
    simp [UndoLog.acknowledgeBatch, broken]

theorem Alike.undone (alike : l.Alike l') (kept id : Nat) : (l.undone kept id).Alike (l'.undone kept id) := by
  refine alike.record (UndoLog.undone · kept id) ?_ ?_
  · intro valid awaited
    have valid' : ({ l with awaited } : UndoLog).valid = true := valid
    simp only [UndoLog.undone, valid, valid']
    rfl
  · intro l broken
    simp [UndoLog.undone, broken]

/-- Logs that are the same as long as they are in order. -/
def Attuned (l l' : UndoLog) : Prop := l.Alike l' ∧ (l.valid = true → l' = l)

/-- An announcement overwrites the last one. -/
theorem Alike.announce (alike : l.Alike l') (index : Nat) : (l.announce index).Attuned (l'.announce index) := by
  obtain ⟨awaited, rfl⟩ := alike
  cases valid : l.valid with
  | true =>
    have valid' : ({ l with awaited } : UndoLog).valid = true := valid
    simp only [UndoLog.announce, valid, valid']
    exact ⟨.refl _, fun _ => rfl⟩
  | false =>
    have valid' : ({ l with awaited } : UndoLog).valid = false := valid
    simp only [UndoLog.announce, valid, valid']
    exact ⟨⟨awaited, rfl⟩, fun absurd => by simp [valid] at absurd⟩

theorem Attuned.invalidate (attuned : l.Attuned l') (reason : Disorder) :
    (l.invalidate reason).Attuned (l'.invalidate reason) := by
  refine ⟨attuned.1.invalidate reason, fun valid => ?_⟩
  rw [invalidate_valid] at valid
  cases valid

theorem Attuned.acknowledge (attuned : l.Attuned l') (index id : Nat) :
    (l.acknowledge index id).1.Alike (l'.acknowledge index id).1 := by
  cases valid : l.valid with
  | true =>
    rw [attuned.2 valid]
    exact .refl _
  | false =>
    refine attuned.1.record (fun l => (l.acknowledge index id).1) ?_ ?_
    · intro absurd
      simp [valid] at absurd
    · intro l broken
      simp [UndoLog.acknowledge, broken]

end UndoLog

/-! ## Acts -/

/-- The transactions after one more. -/
def TransactionLog.later (l : TransactionLog) : TransactionLog :=
  ⟨l.lastId + 1, l.current.map fun t => { t with id := t.id + 1 }⟩

/-- Engines that differ at most in the last output and a transaction, and whose undo logs are in a relation. -/
def Engine.Alike (L : UndoLog → UndoLog → Prop) (e e' : Engine) : Prop :=
  ∃ undo lastOutput, L e.undo undo ∧ e' = { e with undo, lastOutput, transactions := e.transactions.later }

variable {L M : UndoLog → UndoLog → Prop} {e e' : Engine}

theorem Engine.Alike.mono (alike : e.Alike M e') (weaker : ∀ l l', M l l' → L l l') : e.Alike L e' := by
  obtain ⟨undo, lastOutput, related, rfl⟩ := alike
  exact ⟨undo, lastOutput, weaker _ _ related, rfl⟩

namespace Act

/-- The two ends of an act: the same result, and engines that are alike. -/
def EndAlike (L : UndoLog → UndoLog → Prop) (p p' : Except Fault α × Engine) : Prop := p'.1 = p.1 ∧ p.2.Alike L p'.2

/-- The acts ask alike on two engines, and end alike. -/
def Alike (L : UndoLog → UndoLog → Prop) (act act' : Act α) (e e' : Engine) : Prop :=
  (act.run.run e).Alike (EndAlike L) (act'.run.run e')

theorem Alike.bind {act act' : Act α} {f f' : α → Act β} (first : Alike M act act' e e')
    (weaker : ∀ l l', M l l' → L l l')
    (next : ∀ a e₁ e₁', e₁.Alike M e₁' → Alike L (f a) (f' a) e₁ e₁') : Alike L (act >>= f) (act' >>= f') e e' := by
  unfold Alike
  rw [ExceptT.run_bind, ExceptT.run_bind, StateT.run_bind, StateT.run_bind]
  refine Dialogue.Alike.bind first ?_
  rintro ⟨_, e₁⟩ ⟨result, e₁'⟩ ⟨rfl, alike⟩
  cases result with
  | ok a => exact next a e₁ e₁' alike
  | error fault => exact .done ⟨rfl, alike.mono weaker⟩

/-- An act that goes alike on engines that are alike. -/
def Blind (L : UndoLog → UndoLog → Prop) (act : Act α) : Prop := ∀ e e', e.Alike L e' → Alike L act act e e'

theorem blind_pure (a : α) : (pure a : Act α).Blind L := fun _ _ alike => .done ⟨rfl, alike⟩

theorem blind_throw (fault : Fault) : (throw fault : Act α).Blind L := fun _ _ alike => .done ⟨rfl, alike⟩

theorem blind_ask (q : Query) : (ask q).Blind L := fun _ _ alike => .ask q fun _ => .done ⟨rfl, alike⟩

theorem blind_orFail (r : Except Fault α) : (orFail r).Blind L := by
  cases r with
  | ok a => exact blind_pure a
  | error fault => exact blind_throw fault

theorem blind_modify {f : Engine → Engine} (same : ∀ (e : Engine) undo lastOutput, L e.undo undo →
    (f e).Alike L (f { e with undo, lastOutput, transactions := e.transactions.later })) :
    (modify f : Act PUnit).Blind L := by
  rintro e _ ⟨undo, lastOutput, related, rfl⟩
  exact .done ⟨rfl, same e undo lastOutput related⟩

theorem Blind.bind {act : Act α} {f : α → Act β} (first : act.Blind L) (next : ∀ a, (f a).Blind L) :
    (act >>= f).Blind L := fun e e' alike => (first e e' alike).bind (fun _ _ related => related) next

theorem Blind.attempt {act : Act α} (blind : act.Blind L) : act.attempt.Blind L := by
  intro e e' alike
  refine Dialogue.Alike.bind (blind e e' alike) ?_
  rintro ⟨_, e₁⟩ ⟨result, e₁'⟩ ⟨rfl, alike₁⟩
  exact .done ⟨rfl, alike₁⟩

theorem Blind.ite {p : Prop} [Decidable p] {act other : Act α} (yes : act.Blind L) (no : other.Blind L) :
    (if p then act else other).Blind L := by
  split
  · exact yes
  · exact no

/-- What is read of the engine is the same. -/
theorem Blind.get {f : Engine → Act α} (same : ∀ e e', e.Alike L e' → f e' = f e) (blind : ∀ e, (f e).Blind L) :
    (MonadState.get >>= f).Blind L := by
  intro e e' alike
  show Alike L (f e) (f e') e e'
  rw [same e e' alike]
  exact blind e e e' alike

/-- What is read of the engine leaves out what may differ. -/
theorem Blind.read {f : Engine → Act α}
    (same : ∀ (e : Engine) awaited lastOutput,
      f { e with undo := { e.undo with awaited }, lastOutput, transactions := e.transactions.later } = f e)
    (blind : ∀ e, (f e).Blind UndoLog.Alike) : (MonadState.get >>= f).Blind UndoLog.Alike := by
  refine .get ?_ blind
  rintro e _ ⟨_, lastOutput, ⟨awaited, rfl⟩, rfl⟩
  exact same e awaited lastOutput

end Act

namespace Engine
open Act

theorem blind_takeStale (c : Counter) (events : List Event) : (takeStale c events).Blind L := by
  induction events generalizing c with
  | nil => exact blind_pure c
  | cons event rest ih =>
    cases event with
    | output chunk => exact .bind (blind_ask _) fun _ => ih _
    | complaint line => exact .bind (blind_ask _) fun _ => ih c
    | exited code expected => exact blind_throw _

theorem blind_exchange (text : String) (x : Exchange) : (exchange text x).Blind L :=
  .bind (blind_ask _) fun sent => .bind (blind_orFail sent) fun _ => .bind (blind_ask _) fun _ => blind_orFail _

/-- A change of nothing but the gate. -/
theorem blind_gate (inFlight : Bool) : (modify ({ · with inFlight }) : Act PUnit).Blind L :=
  blind_modify fun _ undo lastOutput related => ⟨undo, lastOutput, related, rfl⟩

theorem blind_roundTrip (text : String) (expected : Nat) : (roundTrip text expected).Blind L := by
  refine .get ?_ fun e => .ite (blind_throw _) ?_
  · rintro e _ ⟨undo, lastOutput, -, rfl⟩
    rfl
  refine .bind (blind_ask _) fun events => .bind (blind_takeStale _ events) fun counter => ?_
  refine .bind (blind_gate true) fun _ => .bind (blind_exchange text _).attempt fun result => ?_
  cases result with
  | ok counter => exact .bind (blind_gate false) fun _ => blind_pure _
  | error fault => exact .ite (.bind (blind_gate false) fun _ => blind_throw fault) (blind_throw fault)

/-- A command goes alike if the relation of the undo logs outlives their being put out of order. -/
theorem blind_submit (lasts : ∀ l l' reason, L l l' → L (l.invalidate reason) (l'.invalidate reason)) (text : String)
    (expected : Nat) : (submit text expected).Blind L := by
  refine .bind (blind_roundTrip text expected).attempt fun result => ?_
  cases result with
  | ok response =>
    refine .bind (blind_modify fun e undo lastOutput related => ?_) fun _ => blind_pure response
    exact ⟨undo, response.display, related, rfl⟩
  | error fault =>
    refine .ite (.bind (blind_modify fun e undo lastOutput related => ?_) fun _ => ?_) (blind_throw fault)
    · exact ⟨_, lastOutput, lasts _ _ _ related, rfl⟩
    · exact .bind (blind_ask _) fun _ => blind_throw fault

theorem blind_command (text : String) (expected : Nat) : (submit text expected).Blind UndoLog.Alike :=
  blind_submit (fun _ _ reason alike => alike.invalidate reason) text expected

theorem blind_startSession : startSession.Blind UndoLog.Alike := by
  refine .bind (blind_ask _) fun greeting => .bind (blind_orFail greeting) fun _ => ?_
  exact blind_modify fun e undo lastOutput _ => ⟨_, lastOutput, .refl _, rfl⟩

theorem blind_haltSession : haltSession.Blind UndoLog.Alike := .read (fun _ _ _ => rfl) fun _ => blind_ask _

/-- The statement is announced anew, so that the logs are the same when it is acknowledged. -/
theorem blind_executeSingle (s : Statement) : (executeSingle s).Blind UndoLog.Alike := by
  rintro e _ ⟨undo, lastOutput, related, rfl⟩
  have announced : ({ e with undo := e.undo.announce e.proved } : Engine).Alike UndoLog.Attuned
      { e with undo := undo.announce e.proved, lastOutput, transactions := e.transactions.later } :=
    ⟨_, lastOutput, related.announce e.proved, rfl⟩
  have submits := blind_submit (fun _ _ reason attuned => attuned.invalidate reason) s.text 1 _ _ announced
  -- Nothing is read of a log that is out of order, so that it may stay different until it is begun anew.
  refine submits.bind (fun _ _ attuned => attuned.1) fun response e₁ e₁' attuned => ?_
  cases response.error with
  | some error => exact .done ⟨rfl, attuned.mono fun _ _ attuned => attuned.1⟩
  | none =>
    obtain ⟨undo₁, lastOutput₁, attuned₁, rfl⟩ := attuned
    refine .done ⟨rfl, _, lastOutput₁, ?_, rfl⟩
    cases response.last? with
    | some m => exact attuned₁.acknowledge e.proved m.id
    | none => exact attuned₁.1.invalidate _

theorem blind_executeBatch (ss : List Statement) : (executeBatch ss).Blind UndoLog.Alike := by
  refine .bind (blind_command _ _) fun response => .ite (.read (fun _ _ _ => rfl) fun _ => blind_pure _) ?_
  refine .bind (blind_modify fun e undo lastOutput related => ?_) fun _ => blind_pure _
  exact ⟨_, lastOutput, related.acknowledgeBatch _ _ _, rfl⟩

theorem blind_rewindBatch (before state : Nat) : (rewindBatch before state).Blind UndoLog.Alike := by
  refine .ite (blind_pure _) (.read (fun _ _ _ => rfl) fun e => .ite (blind_pure _) ?_)
  refine .bind (blind_command _ _).attempt fun answer => ?_
  cases answer with
  | error fault => exact blind_pure _
  | ok response =>
    refine .ite (.bind (blind_modify fun e undo lastOutput related => ?_) fun _ => blind_pure _) (blind_pure _)
    exact ⟨_, lastOutput, related.undone _ _, rfl⟩

theorem blind_replay (ss : List Statement) : (replay ss).Blind UndoLog.Alike := by
  induction ss with
  | nil => exact blind_pure _
  | cons s rest ih => exact .read (fun _ _ _ => rfl) fun _ => .ite (.bind (blind_executeSingle s) fun _ => ih) ih

theorem blind_restartAndReplay (ss : List Statement) : (restartAndReplay ss).Blind UndoLog.Alike :=
  .read (fun _ _ _ => rfl) fun _ => .bind blind_haltSession fun _ => .bind blind_startSession fun _ => blind_replay _

theorem blind_forwardThrough (ss : List Statement) : (forwardThrough ss).Blind UndoLog.Alike := by
  unfold forwardThrough
  split
  · exact blind_executeSingle _
  refine .read (fun _ _ _ => rfl) fun e => .bind (blind_executeBatch _).attempt fun result => ?_
  rcases result with fault | ⟨⟩ | state
  · exact .ite (blind_restartAndReplay _) (blind_throw _)
  · exact blind_pure _
  · exact .bind (blind_rewindBatch _ _) fun _ => .ite (blind_replay _) (blind_restartAndReplay _)

theorem blind_noted (activity : Activity) : (modify ({ · with activity }) : Act PUnit).Blind UndoLog.Alike :=
  blind_modify fun _ undo lastOutput related => ⟨undo, lastOutput, related, rfl⟩

theorem blind_recoverTo (target : Nat) : (recoverTo target).Blind UndoLog.Alike := by
  refine .bind (blind_noted _) fun _ => .bind blind_haltSession fun _ => .bind blind_startSession fun _ => ?_
  exact .read (fun _ _ _ => rfl) fun _ => .ite (blind_forwardThrough _) (blind_pure _)

theorem blind_tryUndo (target : Nat) : (tryUndo target).Blind UndoLog.Alike := by
  refine .read (fun _ _ _ => rfl) fun e => .ite (blind_pure _) (.ite (blind_pure _) ?_)
  refine .bind (blind_ask _) fun running => .ite (blind_pure _) (.ite ?_ ?_)
  · refine .bind (blind_modify ?_) fun _ => blind_pure _
    rintro e _ lastOutput ⟨awaited, rfl⟩
    exact ⟨_, lastOutput, UndoLog.Alike.invalidate ⟨awaited, rfl⟩ _, rfl⟩
  dsimp only
  split
  · exact blind_pure _
  refine .bind (blind_command _ 1).attempt fun answer => ?_
  cases answer with
  | error fault => exact blind_pure _
  | ok response =>
    refine .ite (blind_pure _) (.bind (blind_modify fun e undo lastOutput related => ?_) fun _ => blind_pure _)
    exact ⟨_, lastOutput, related.undone _ _, rfl⟩

theorem blind_backwardTo (target : Nat) : (backwardTo target).Blind UndoLog.Alike := by
  refine .read (fun _ _ _ => rfl) fun _ => .ite (.bind (blind_tryUndo _) fun _ => ?_) (blind_pure _)
  exact .ite (blind_recoverTo _) (blind_pure _)

theorem blind_ready : ready.Blind UndoLog.Alike :=
  .bind (blind_ask _) fun _ => .read (fun _ _ _ => rfl) fun _ => blind_pure _

theorem blind_ensureSession : ensureSession.Blind UndoLog.Alike := by
  refine .bind blind_ready fun free => .ite (.read (fun _ _ _ => rfl) fun e => ?_) (blind_pure _)
  refine .ite blind_startSession (.bind (blind_recoverTo _) fun _ => ?_)
  exact .read (fun _ _ _ => rfl) fun _ => .ite (blind_throw _) (blind_pure _)

theorem blind_stepForward : stepForward.Blind UndoLog.Alike := by
  refine .read (fun _ _ _ => rfl) fun e => .ite (.bind blind_ensureSession fun _ => ?_) (blind_pure _)
  refine .read (fun _ _ _ => rfl) fun e => ?_
  split
  · exact blind_executeSingle _
  · exact blind_pure _

theorem blind_goToCursor (cursor : Nat) : (goToCursor cursor).Blind UndoLog.Alike := by
  refine .read (fun _ _ _ => rfl) fun e => .ite ?_ (.ite ?_ (blind_pure _))
  · exact .bind (blind_noted _) fun _ => blind_backwardTo _
  · refine .bind blind_ensureSession fun _ => .read (fun _ _ _ => rfl) fun e => ?_
    exact .ite (blind_forwardThrough _) (blind_pure _)

theorem blind_reset : reset.Blind UndoLog.Alike := by
  refine .bind blind_haltSession fun _ => blind_modify fun e undo lastOutput _ => ?_
  exact ⟨_, "", .refl _, rfl⟩

/-- Whatever an intent asks for, it goes alike. -/
theorem blind_act (i : Intent) : (act i).Blind UndoLog.Alike := by
  cases i with
  | stepForward => exact blind_stepForward
  | stepBackward => exact .read (fun _ _ _ => rfl) fun _ => .ite (blind_backwardTo _) (blind_pure _)
  | goToCursor cursor => exact blind_goToCursor cursor
  | recover => exact .read (fun _ _ _ => rfl) fun _ => blind_recoverTo _
  | retract edit => exact .read (fun _ _ _ => rfl) fun _ => .ite (blind_backwardTo _) (blind_pure _)
  | reset => exact blind_reset

/-! ## Operations -/

variable {e e' : Engine}

theorem Alike.begun (alike : e.Alike UndoLog.Alike e') (i : Intent) : (e.begun i).Alike UndoLog.Alike (e'.begun i) := by
  obtain ⟨undo, lastOutput, related, rfl⟩ := alike
  exact ⟨undo, lastOutput, related, rfl⟩

theorem finish_later (l : TransactionLog) (t : Transaction) :
    l.later.finish { t with id := t.id + 1 } = ((l.finish t).1.later, (l.finish t).2) := by
  obtain ⟨lastId, _ | opened⟩ := l
  · rfl
  · by_cases same : opened.id = t.id
    · simp [TransactionLog.finish, TransactionLog.later, same]
    · simp [TransactionLog.finish, TransactionLog.later, same]

/-- The outcomes of two operations are the same, and the engines alike. -/
def OutcomeAlike (p p' : Outcome × Engine) : Prop := p.1 = p'.1 ∧ p.2.Alike UndoLog.Alike p'.2

/-- What is told at the end of an operation goes alike, but for the number of its transaction and the last output. -/
theorem Alike.finish (alike : e.Alike UndoLog.Alike e') (t : Transaction) (start : Nat) (result : Except Fault Unit) :
    ((finish t start result).run e).Alike OutcomeAlike ((finish { t with id := t.id + 1 } start result).run e') := by
  obtain ⟨undo, lastOutput, related, rfl⟩ := alike
  simp only [Engine.finish, StateT.run_bind, StateT.run_get, StateT.run_modify, Dialogue.pure_eq, Dialogue.done_bind,
    finish_later]
  have ended : ∀ o : Outcome, OutcomeAlike (o, e.rested t) (o, { e with
      undo, lastOutput, activity := .idle, transactions := (e.transactions.finish t).1.later }) :=
    fun o => ⟨rfl, undo, lastOutput, related, rfl⟩
  by_cases moved : e.offset = start
  · simp only [moved, ne_eq, not_true_eq_false, ↓reduceIte]
    subst moved
    split
    · exact .ask .time fun time => .result _ lastOutput fun _ => .done (ended _)
    · exact .done (ended _)
  · simp only [moved, ne_eq, not_false_eq_true, ↓reduceIte]
    refine .ask (.publish (.offsetChanged e.offset e.proved)) fun _ => ?_
    split
    · exact .ask .time fun time => .result _ lastOutput fun _ => .done (ended _)
    · exact .done (ended _)

/-- An intent is carried out alike, with the next number for its transaction. -/
theorem Alike.perform (alike : e.Alike UndoLog.Alike e') (i : Intent) :
    (e.perform i).Alike OutcomeAlike (e'.perform i) := by
  have runs : ∀ e : Engine, e.perform i = (act i).run.run (e.begun i) >>= fun p =>
      (Engine.finish (e.transactions.begin i.reason).2 e.offset p.1).run p.2 := fun _ => rfl
  rw [runs, runs]
  refine Dialogue.Alike.bind (blind_act i _ _ (alike.begun i)) ?_
  obtain ⟨undo, lastOutput, related, rfl⟩ := alike
  rintro ⟨_, e₁⟩ ⟨result, e₁'⟩ ⟨rfl, alike₁⟩
  exact alike₁.finish _ e.offset result

end Engine
end Frontier
