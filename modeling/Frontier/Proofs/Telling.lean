import Frontier.Proofs.Course
import Frontier.Proofs.Passage

/-!
# What operations tell the host

While an act runs, the host hears only what the prover prints. At its end an operation tells the new end of the
verified region, if it has moved, and then its result, under the number of its transaction.
-/

namespace Frontier
variable {α β : Type}

/-- All that the host is told. Anything may be asked, and any answer may come. -/
def telling : Watch (List Notification) where
  start := []
  after told q r := told ++ q.told r
  Admits _ _ _ := True
  Allows _ _ := True

@[simp] theorem telling_asks (told : List Notification) (q : Query) : telling.contract.asks told q ↔ True := Iff.rfl

@[simp] theorem telling_answers (told told' : List Notification) (q : Query) (r : q.Reply) :
    telling.contract.answers told q r told' ↔ told' = told ++ q.told r := by
  simp [telling]

/-- Some way through a dialogue is always open. -/
theorem Dialogue.Leads.ends {d : Dialogue α} {post : α → List Notification → Prop} {told : List Notification}
    (leads : d.Leads telling.contract post told) : ∃ a more, post a (told ++ more) := by
  induction d generalizing told with
  | done a => exact ⟨a, [], by simpa using leads⟩
  | ask q next ih =>
    obtain ⟨r⟩ : Nonempty q.Reply := by cases q <;> exact ⟨default⟩
    obtain ⟨a, more, holds⟩ := ih r (leads.2 r _ ((telling_answers _ _ _ _).mpr rfl))
    exact ⟨a, q.told r ++ more, by rwa [List.append_assoc] at holds⟩

/-- The end of the verified region that an event tells of. -/
def Notification.moved? : Notification → Option Nat
  | .offsetChanged offset _ => some offset
  | _ => none

/-- The number of the transaction whose result an event reports. -/
def Notification.transaction? : Notification → Option Nat
  | .proofState p => some p.transaction
  | _ => none

/-- The end of the verified region as the host was last told, or 0. -/
def lastOffset (told : List Notification) : Nat := (told.filterMap Notification.moved?).getLast?.getD 0

theorem lastOffset_concat (told : List Notification) (n : Notification) :
    lastOffset (told ++ [n]) = n.moved?.getD (lastOffset told) := by
  rw [lastOffset, List.filterMap_append, List.getLast?_append]
  cases moved : n.moved? <;> simp [lastOffset, moved]

theorem lastOffset_printed (told : List Notification) (printed : List String) :
    lastOffset (told ++ printed.map .rawOutput) = lastOffset told := by
  have none : (printed.map Notification.rawOutput).filterMap Notification.moved? = [] := by
    simp [Notification.moved?]
  rw [lastOffset, List.filterMap_append, none, List.append_nil, lastOffset]

/-! ## Acts -/

/-- The transactions are those at the beginning of an act, and since then the host was told only what the prover has
printed. -/
def Engine.Silent (log : TransactionLog) (before : List Notification) (e : Engine) (told : List Notification) : Prop :=
  e.transactions = log ∧ ∃ printed : List String, told = before ++ printed.map .rawOutput

theorem Engine.Silent.printed {log : TransactionLog} {before told : List Notification} {e : Engine}
    (silent : e.Silent log before told) (printed : List String) :
    e.Silent log before (told ++ printed.map .rawOutput) := by
  obtain ⟨same, sofar, rfl⟩ := silent
  exact ⟨same, sofar ++ printed, by simp⟩

/-- An act that leaves the transactions alone and tells the host only what the prover prints. -/
def Act.Prints (act : Act α) : Prop := ∀ log before e told, e.Silent log before told →
  act.Leads telling.contract (fun _ => Engine.Silent log before) (fun _ => Engine.Silent log before) e told

namespace Act

theorem prints_pure (a : α) : (pure a : Act α).Prints := fun _ _ _ _ silent => silent

theorem prints_throw (fault : Fault) : (throw fault : Act α).Prints := fun _ _ _ _ silent => silent

theorem prints_get : (get : Act Engine).Prints := fun _ _ _ _ silent => silent

theorem prints_modify {f : Engine → Engine} (same : ∀ e, (f e).transactions = e.transactions) :
    (modify f : Act PUnit).Prints :=
  fun _ _ e _ silent => ⟨(same e).trans silent.1, silent.2⟩

theorem prints_ask {q : Query} (prints : ∀ r, ∃ printed : List String, q.told r = printed.map .rawOutput) :
    (ask q).Prints := by
  intro log before e told silent
  refine ⟨trivial, ?_⟩
  rintro r told' ⟨-, rfl⟩
  obtain ⟨printed, same⟩ := prints r
  show e.Silent log before (told ++ q.told r)
  rw [same]
  exact silent.printed printed

/-- A question of which the host is told nothing. -/
theorem prints_quiet {q : Query} (quiet : ∀ r, q.told r = []) : (ask q).Prints :=
  prints_ask fun r => ⟨[], quiet r⟩

theorem prints_orFail (r : Except Fault α) : (orFail r).Prints := by
  cases r with
  | ok a => exact prints_pure a
  | error fault => exact prints_throw fault

variable {act : Act β}

theorem Prints.bind {f : β → Act α} (first : act.Prints) (next : ∀ b, (f b).Prints) : (act >>= f).Prints := by
  intro log before e told silent
  rw [leads_bind]
  exact (first log before e told silent).mono (fun b e₁ told₁ silent₁ => next b log before e₁ told₁ silent₁)
    (fun _ _ _ silent₁ => silent₁)

theorem Prints.attempt (prints : act.Prints) : act.attempt.Prints := by
  intro log before e told silent
  rw [leads_attempt]
  exact prints log before e told silent

end Act

namespace Engine
open Act

theorem prints_takeStale (c : Counter) (events : List Event) : (takeStale c events).Prints := by
  induction events generalizing c with
  | nil => exact prints_pure c
  | cons event rest ih =>
    cases event with
    | output chunk => exact Prints.bind (prints_ask fun _ => ⟨[chunk], rfl⟩) fun _ => ih _
    | complaint line => exact Prints.bind (prints_ask fun _ => ⟨[line], rfl⟩) fun _ => ih c
    | exited code expected => exact prints_throw _

theorem prints_exchange (text : String) (x : Exchange) : (exchange text x).Prints := by
  refine Prints.bind (prints_quiet fun _ => rfl) fun sent => ?_
  refine Prints.bind (prints_orFail sent) fun _ => ?_
  exact Prints.bind (prints_ask fun heard => ⟨_, rfl⟩) fun heard => prints_orFail _

theorem prints_roundTrip (text : String) (expected : Nat) : (roundTrip text expected).Prints := by
  refine Prints.bind prints_get fun e => ?_
  dsimp only
  split
  · exact prints_throw _
  refine Prints.bind (prints_quiet fun _ => rfl) fun events => ?_
  refine Prints.bind (prints_takeStale _ events) fun counter => ?_
  refine Prints.bind (prints_modify fun _ => rfl) fun _ => ?_
  refine Prints.bind (prints_exchange text _).attempt fun result => ?_
  cases result with
  | ok counter => exact Prints.bind (prints_modify fun _ => rfl) fun _ => prints_pure _
  | error fault =>
    dsimp only
    split
    · exact Prints.bind (prints_modify fun _ => rfl) fun _ => prints_throw fault
    · exact prints_throw fault

theorem prints_submit (text : String) (expected : Nat) : (submit text expected).Prints := by
  refine Prints.bind (prints_roundTrip text expected).attempt fun result => ?_
  cases result with
  | ok response => exact Prints.bind (prints_modify fun _ => rfl) fun _ => prints_pure response
  | error fault =>
    dsimp only
    split
    · refine Prints.bind (prints_modify fun _ => rfl) fun _ => ?_
      exact Prints.bind (prints_quiet fun _ => rfl) fun _ => prints_throw fault
    · exact prints_throw fault

theorem prints_startSession : startSession.Prints := by
  refine Prints.bind (prints_quiet fun _ => rfl) fun greeting => ?_
  exact Prints.bind (prints_orFail greeting) fun _ => prints_modify fun _ => rfl

theorem prints_haltSession : haltSession.Prints := Prints.bind prints_get fun _ => prints_quiet fun _ => rfl

theorem prints_executeSingle (stmt : Statement) : (executeSingle stmt).Prints := by
  refine Prints.bind prints_get fun e => ?_
  refine Prints.bind (prints_modify fun _ => rfl) fun _ => ?_
  refine Prints.bind (prints_submit stmt.text 1) fun response => ?_
  dsimp only
  split
  · exact prints_throw _
  · exact prints_modify fun _ => rfl

theorem prints_executeBatch (ss : List Statement) : (executeBatch ss).Prints := by
  refine Prints.bind (prints_submit _ _) fun response => ?_
  split
  · exact Prints.bind prints_get fun _ => prints_pure _
  · exact Prints.bind (prints_modify fun _ => rfl) fun _ => prints_pure _

theorem prints_rewindBatch (before state : Nat) : (rewindBatch before state).Prints := by
  unfold rewindBatch
  split
  · exact prints_pure true
  refine Prints.bind prints_get fun e => ?_
  split
  · exact prints_pure false
  refine Prints.bind (prints_submit _ 1).attempt fun result => ?_
  cases result with
  | error fault => exact prints_pure false
  | ok response =>
    dsimp only
    split
    · exact Prints.bind (prints_modify fun _ => rfl) fun _ => prints_pure true
    · exact prints_pure false

theorem prints_tryUndo (target : Nat) : (tryUndo target).Prints := by
  refine Prints.bind prints_get fun e => ?_
  dsimp only
  split
  · exact prints_pure false
  split
  · exact prints_pure false
  refine Prints.bind (prints_quiet fun _ => rfl) fun running => ?_
  split
  · exact prints_pure false
  split
  · exact Prints.bind (prints_modify fun _ => rfl) fun _ => prints_pure false
  split
  · exact prints_pure false
  refine Prints.bind (prints_submit _ 1).attempt fun result => ?_
  cases result with
  | error fault => exact prints_pure false
  | ok response =>
    dsimp only
    split
    · exact prints_pure false
    · exact Prints.bind (prints_modify fun _ => rfl) fun _ => prints_pure true

theorem prints_reset : reset.Prints := Prints.bind prints_haltSession fun _ => prints_modify fun _ => rfl

theorem silent_passage (log : TransactionLog) (before : List Notification) :
    Passage telling.contract (Silent log before) (Silent log before) (Silent log before) where
  kept silent := silent
  adrift silent := silent
  noted _ silent := silent
  readies := by
    intro e told silent
    simp only [ready, Act.leads_bind, Act.leads_ask, telling_asks, telling_answers, Act.leads_get, Act.leads_pure]
    refine ⟨trivial, ?_⟩
    rintro running _ rfl
    have still : e.Silent log before (told ++ []) := by rwa [List.append_nil]
    exact ⟨trivial, still, fun _ => still⟩
  verified _ _ _ := trivial
  executes _ silent := prints_executeSingle _ _ _ _ _ silent
  batches := by
    intro e told ss _ _ silent
    refine (prints_executeBatch ss _ _ _ _ silent).mono ?_ (fun _ _ _ silent₁ => silent₁)
    intro result e₁ told₁ silent₁
    cases result with
    | accepted => exact silent₁
    | rejected state =>
      refine (prints_rewindBatch _ state _ _ _ _ silent₁).mono ?_ (fun _ _ _ silent₂ => silent₂)
      intro rewound e₂ told₂ silent₂
      simpa using silent₂
  halts silent := prints_haltSession _ _ _ _ silent
  starts silent := prints_startSession _ _ _ _ silent
  undoes target silent := prints_tryUndo target _ _ _ _ silent
  resets silent := prints_reset _ _ _ _ silent

theorem prints_act (i : Intent) : (act i).Prints := fun log before _ _ silent =>
  (silent_passage log before).act_keeps i silent

/-! ## Operations -/

/-- A publication reports the result of an operation. -/
structure Reports (t : Transaction) (o : Outcome) (e : Engine) (p : Publication) : Prop where
  transaction : p.transaction = t.id
  reason : p.reason = t.reason
  success : p.success = o.success
  error : p.error = o.error
  output : p.output = e.lastOutput
  proved : p.proved = e.proved
  offset : p.offset = e.offset

/-- What the host is told of an operation that found the verified region to end at `start`: what the prover prints, then
the end of the region, if it has moved, and the result. -/
def Tells (t : Transaction) (start : Nat) (o : Outcome) (e : Engine) (told : List Notification) : Prop :=
  ∃ (printed : List String) (p : Publication), Reports t o e p ∧
    told = printed.map .rawOutput ++ (if e.offset = start then [] else [.offsetChanged p.offset p.proved]) ++
      [.proofState p]

theorem Tells.lastOffset {t : Transaction} {start : Nat} {o : Outcome} {e : Engine} {before told : List Notification}
    (tells : Tells t start o e told) (known : lastOffset before = start) :
    Frontier.lastOffset (before ++ told) = e.offset := by
  obtain ⟨printed, p, reports, rfl⟩ := tells
  rw [← List.append_assoc, lastOffset_concat, ← List.append_assoc]
  show Frontier.lastOffset _ = e.offset
  by_cases moved : e.offset = start
  · rw [if_pos moved, List.append_nil, lastOffset_printed, known, moved]
  · rw [if_neg moved, lastOffset_concat]
    exact reports.offset

theorem Tells.transaction {t : Transaction} {start : Nat} {o : Outcome} {e : Engine} {told : List Notification}
    (tells : Tells t start o e told) : told.filterMap Notification.transaction? = [t.id] := by
  obtain ⟨printed, p, reports, rfl⟩ := tells
  have none : (printed.map Notification.rawOutput).filterMap Notification.transaction? = [] := by
    simp [Notification.transaction?]
  rw [List.filterMap_append, List.filterMap_append, none, List.nil_append, ← reports.transaction]
  by_cases moved : e.offset = start
  · rw [if_pos moved]
    rfl
  · rw [if_neg moved]
    rfl

variable {e : Engine} {told : List Notification}

theorem reports_published (t : Transaction) (error : Option String) (e : Engine) (time : Timestamp) :
    Reports t (match error with | none => .done e.offset | some message => .failure message e.offset) e
      ⟨t.id, t.reason, error.isNone, error, e.lastOutput, e.proved, e.offset, time⟩ := by
  cases error with
  | none => exact ⟨rfl, rfl, rfl, rfl, rfl, rfl, rfl⟩
  | some message => exact ⟨rfl, rfl, rfl, rfl, rfl, rfl, rfl⟩

theorem finish_tells (t : Transaction) (opened : e.transactions.current = some t) (start : Nat)
    (result : Except Fault Unit) :
    Leads telling.contract (finish t start result)
      (fun o e' told' => o.offset = some e'.offset ∧ e'.transactions = ⟨e.transactions.lastId, none⟩ ∧
        ∃ p, Reports t o e' p ∧ told' = told ++
          (if e'.offset = start then [] else [.offsetChanged p.offset p.proved]) ++ [.proofState p]) e told := by
  have newest : e.transactions.finish t = (⟨e.transactions.lastId, none⟩, true) := by
    simp [TransactionLog.finish, opened]
  let ended : Engine := { e with activity := .idle, transactions := ⟨e.transactions.lastId, none⟩ }
  simp only [finish, leads_bind, leads_get, leads_modify, newest, ↓reduceIte]
  by_cases moved : e.offset = start
  · subst moved
    simp only [ne_eq, not_true_eq_false, ↓reduceIte, leads_bind, leads_query, telling_asks, telling_answers]
    refine ⟨trivial, ?_⟩
    rintro time _ rfl
    refine ⟨trivial, ?_⟩
    rintro _ _ rfl
    exact ⟨by cases result <;> rfl, rfl, _, reports_published t _ ended time,
      by cases result <;> simp [Query.told, ended]⟩
  · simp only [moved, ne_eq, not_false_eq_true, ↓reduceIte, leads_bind, leads_query, telling_asks, telling_answers]
    refine ⟨trivial, ?_⟩
    rintro _ _ rfl
    refine ⟨trivial, ?_⟩
    rintro time _ rfl
    refine ⟨trivial, ?_⟩
    rintro _ _ rfl
    exact ⟨by cases result <;> rfl, rfl, _, reports_published t _ ended time,
      by cases result <;> simp [moved, Query.told, ended]⟩

/-- An operation has the next number, and its outcome shows the end of the region that it leaves. -/
theorem perform_tells (e : Engine) (i : Intent) (told : List Notification) :
    (e.perform i).Leads telling.contract
      (fun p told' => p.1.offset = some p.2.offset ∧ p.2.transactions = ⟨e.transactions.lastId + 1, none⟩ ∧
        ∃ more, told' = told ++ more ∧ Tells ⟨e.transactions.lastId + 1, i.reason⟩ e.offset p.1 p.2 more) told := by
  have runs : e.perform i = (act i).run.run (e.begun i) >>= fun p =>
      (finish (e.transactions.begin i.reason).2 e.offset p.1).run p.2 := rfl
  rw [runs, Dialogue.leads_bind]
  have begun : (e.begun i).Silent (e.transactions.begin i.reason).1 told told := ⟨rfl, [], by simp⟩
  refine Dialogue.Leads.mono (prints_act i _ _ _ _ begun) ?_
  rintro ⟨result, e₁⟩ told₁ ended
  obtain ⟨log, printed, rfl⟩ : e₁.Silent (e.transactions.begin i.reason).1 told told₁ := by
    cases result with
    | ok _ => exact ended
    | error fault => exact ended
  refine (finish_tells _ (by rw [log]; rfl) e.offset result).mono ?_
  rintro ⟨o, e₂⟩ _ ⟨shown, closed, p, reports, rfl⟩
  refine ⟨shown, by rw [closed, log]; rfl, _, ?_, printed, p, reports, rfl⟩
  simp only [List.append_assoc]

end Engine
end Frontier
