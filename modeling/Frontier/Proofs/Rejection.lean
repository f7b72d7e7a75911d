import Frontier.Proofs.Frame
import Frontier.Proofs.Lockstep
import Frontier.Proofs.Story

/-!
# Rejected statements

A statement that the prover rejects fails with the prover's words and leaves everything as it was. What it leaves in the
engine is never looked at again: whatever happens later, everything goes on as if the step had not been asked for.
-/

namespace Frontier

/-! ## At rest -/

/-- An engine with no operation in progress, which has read the document that it has, or none yet. -/
structure Engine.Rests (e : Engine) : Prop where
  idle : e.activity = .idle
  closed : e.transactions.current = none
  read : e.outline.key = some (e.document.utf8ByteSize, e.version) ∨ e.outline = {}

namespace Engine
variable {e : Engine}

theorem update_key (o : Outline) (document : String) (version : Int) :
    (o.update document version).1.key = some (document.utf8ByteSize, version) := by
  unfold Outline.update
  dsimp only
  split
  · next same => exact same
  · rfl

/-- The transactions, and whether the document was read, are nothing that an act changes. -/
theorem stable_rest (log : TransactionLog) : Stable fun e =>
    e.transactions = log ∧ e.outline.key = some (e.document.utf8ByteSize, e.version) where
  changed _ _ _ _ _ _ _ rest := rest
  reread rest := ⟨rest.1, update_key _ _ _⟩

theorem rests_keeps : (reporting fun _ => True).Keeps fun e _ => e.Rests where
  setDocument document version rests := ⟨rests.idle, rests.closed, .inl (update_key _ _ _)⟩
  perform := by
    intro e s i rests
    apply performing_leads (attended_quiet (reporting_attends _)) i fun _ e' _ => e'.Rests
    have begun : (e.begun i).transactions = (e.transactions.begin i.reason).1 ∧
        (e.begun i).outline.key = some ((e.begun i).document.utf8ByteSize, (e.begun i).version) :=
      ⟨rfl, update_key _ _ _⟩
    have rested : ∀ e' : Engine, e'.transactions = (e.transactions.begin i.reason).1 →
        e'.outline.key = some (e'.document.utf8ByteSize, e'.version) →
          (e'.rested (e.transactions.begin i.reason).2).Rests := by
      intro e' log read
      refine ⟨rfl, ?_, .inl read⟩
      simp [Engine.rested, log, TransactionLog.begin, TransactionLog.finish]
    refine (act_keeps (stable_rest _) i _ begun).mono ?_ ?_
    · exact fun _ e' _ rest => rested e' rest.1 rest.2
    · exact fun _ e' _ rest => rested e' rest.1 rest.2
  shutdown := by
    intro e s rests
    exact ⟨trivial, fun _ _ _ => ⟨rests.idle, rests.closed, rests.read⟩⟩
  running rests := ⟨trivial, fun _ _ => rests⟩

theorem opens_rests {settings : Settings} : ∀ engine, Engine.ofSettings settings = .ok engine → engine.Rests := by
  intro engine made
  obtain ⟨rules, -, rfl⟩ := ofSettings_ok made
  exact ⟨rfl, rfl, .inr rfl⟩

/-- An engine at rest that has a next statement reads nothing new when an operation begins. -/
theorem Rests.begun (rests : e.Rests) {s : Statement} (next : e.outline.next? e.offset = some s) (i : Intent) :
    (e.begun i).outline = e.outline := by
  rcases rests.read with read | none
  · simp [Engine.begun, Outline.update, read]
  · rw [none] at next
    simp [Outline.next?] at next

end Engine

theorem Engine.Rests.takeDocument {d : Desk} (rests : d.engine.Rests) : d.takeDocument.engine.Rests := by
  unfold Desk.takeDocument
  split
  · exact Engine.rests_keeps.setDocument (s := ()) _ _ rests
  · exact rests

namespace Desk
variable {d : Desk}

/-- No call waits for a desk that is free. -/
def Served (d : Desk) : Prop := d.holder = none → d.waiting = []

theorem served_of_held {d : Desk} (held : d.holder.isSome = true) : d.Served := by
  intro free
  rw [free] at held
  cases held

theorem drain_held (ticket : Ticket) (phase : Phase) {otherwise : Desk → Move}
    (holds : ∀ d, (otherwise d).desk.holder.isSome = true) :
    (d.drain ticket phase otherwise).desk.holder.isSome = true := by
  obtain ⟨d', -, ⟨-, goesOn⟩ | ⟨edit, -, -, retracts⟩⟩ := d.drain_cases ticket phase otherwise
  · rw [goesOn]
    exact holds d'
  · rw [retracts]
    rfl

theorem release_served (answers : List (Ticket × Answer)) (waiting : List (Ticket × Bool)) :
    (d.release answers waiting).desk.Served := by
  obtain ⟨shown, -, free | ⟨ticket, rest, stops⟩⟩ := d.release_cases answers waiting
  · rw [free]
    exact fun _ => rfl
  · rw [stops]
    exact served_of_held rfl

theorem Served.call (served : d.Served) (ticket : Ticket) (x : Call) : (d.call ticket x).desk.Served := by
  cases held : d.holder with
  | some h =>
    have busy : d.holder.isSome = true := by rw [held]; rfl
    exact served_of_held (by rw [(Course.call_held ticket x busy).2.1, busy])
  | none =>
    cases x with
    | update document version edit =>
      simp only [Desk.call, held, Option.isSome_none, Bool.false_eq_true, ↓reduceIte]
      exact served_of_held (drain_held _ _ fun _ => rfl)
    | intent i =>
      simp only [Desk.call, held, Option.isSome_none, Bool.false_eq_true, ↓reduceIte]
      exact served_of_held (drain_held _ _ fun _ => rfl)
    | snapshot =>
      simp only [Desk.call, held, Option.isSome_none, Bool.false_eq_true, ↓reduceIte]
      exact served
    | shutdown =>
      simp only [Desk.call, held, Option.isSome_none, Bool.false_eq_true, ↓reduceIte]
      exact served_of_held rfl

theorem Served.proceed (served : d.Served) (f : Finding) : (d.proceed f).desk.Served := by
  unfold Desk.proceed
  split
  case h_5 => exact served_of_held rfl
  case h_6 => exact release_served _ _
  case h_7 => exact served
  all_goals exact served_of_held (drain_held _ _ fun _ => rfl)

end Desk

namespace Course
variable {settings : Settings} {c : Course}

theorem Reached.served (reached : c.Reached settings) : c.desk.Served := by
  obtain ⟨desk, opened, path⟩ := reached
  induction path with
  | refl =>
    obtain ⟨e, -, rfl⟩ := Desk.ofSettings_ok opened
    exact fun _ => rfl
  | tail _ step served =>
    cases step with
    | call ticket x => exact served.call ticket x
    | hear q next r waits => exact served
    | proceed f ended => exact served.proceed f
    | look running free => exact served

/-- A desk that is free waits for no answer, has an engine at rest and no calls waiting, and shows where the verified
region ends. -/
theorem Reached.rests (reached : c.Reached settings) (free : c.desk.holder = none) :
    c.work = none ∧ c.desk.engine.Rests ∧ c.desk.waiting = [] ∧ c.desk.offset = c.desk.engine.offset := by
  obtain ⟨ops, history⟩ := reached.history
  obtain ⟨idle, -, offset⟩ := Holds.rest history.recounts.1 free
  have sound := (reached_sound Engine.rests_keeps Engine.opens_rests reached (lawful_anyProver c.asked)).2
  exact ⟨idle, sound.settled (.free free), reached.served free, offset⟩

end Course

/-! ## The rejected step -/

/-- Every question is answered in one way. -/
def replying (reply : (q : Query) → q.Reply) : Contract Unit where
  asks _ _ := True
  answers _ q r _ := r = reply q

@[simp] theorem replying_asks (reply : (q : Query) → q.Reply) (s : Unit) (q : Query) :
    (replying reply).asks s q ↔ True := Iff.rfl

@[simp] theorem replying_answers (reply : (q : Query) → q.Reply) (s s' : Unit) (q : Query) (r : q.Reply) :
    (replying reply).answers s q r s' ↔ r = reply q := Iff.rfl

theorem replying_quiet (reply : (q : Query) → q.Reply) : Engine.Quiet (replying reply) where
  publish _ _ := ⟨trivial, fun _ _ _ => rfl⟩
  time _ := ⟨trivial, fun _ _ _ => rfl⟩

/-- The exchange in which a statement is sent to a session that has shown a marker. -/
def Engine.singly (e : Engine) : Exchange := ⟨e.rules, 1, {}, e.settings.quiet 1, e.settings.commandTimeout⟩

/-- A process that runs and has nothing left to say takes a statement and answers it with an error. -/
structure Rejects (reply : (q : Query) → q.Reply) (x : Exchange) (s : Statement) (answer : Counter) (message : String) :
    Prop where
  running : reply .running = true
  quiet : reply .drain = []
  sent : reply (.send s.text) = .ok ()
  answered : x.conclude x.begin (reply (.listen x)) = .ok answer
  error : (Response.ofCounter x.rules answer).error.map (·.2) = some message

/-- The error of an answer is that of the first output that holds one, from where it begins, and trimmed. -/
theorem Response.firstError_message (rules : Rules) (trailing : String) (index : Nat) (segments : List Segment) :
    (Response.firstError rules trailing index segments).map (·.2) =
      (segments.map (·.output) ++ [trailing]).findSome? fun output =>
        (rules.errors.find? output.toList).map fun found => String.ofList (Text.trim found) := by
  induction segments generalizing index with
  | nil => simp [firstError, Rules.error?, Function.comp_def]
  | cons s rest ih =>
    simp only [firstError, Rules.error?, List.map_cons, List.cons_append, List.findSome?_cons]
    cases rules.errors.find? s.output.toList with
    | none => exact ih (index + 1)
    | some found => rfl

namespace Engine
variable {e : Engine} {s : Statement} {reply : (q : Query) → q.Reply} {answer : Counter} {message : String}

/-- An answer to a statement changes nothing but the last output. -/
theorem submit_replied (gate : e.inFlight = false) (seen : e.startupPending = false)
    (rejects : Rejects reply e.singly s answer message) {ok : Response → Engine → Unit → Prop}
    {failed : Fault → Engine → Unit → Prop}
    (next : ok (.ofCounter e.rules answer) { e with lastOutput := (Response.ofCounter e.rules answer).display } ()) :
    (submit s.text 1).Leads (replying reply) ok failed e () := by
  have still : { e with
      inFlight := false
      startupPending := false
      lastOutput := (Response.ofCounter e.rules answer).display } =
      { e with lastOutput := (Response.ofCounter e.rules answer).display } := by
    cases e
    cases gate
    cases seen
    rfl
  simp only [submit, roundTrip, exchange, Act.leads_bind, Act.leads_attempt, Act.leads_get, gate, seen,
    Bool.false_eq_true, ↓reduceIte, Act.leads_ask, replying_asks, replying_answers, true_and]
  rintro _ _ rfl
  rw [rejects.quiet]
  simp only [takeStale, Act.leads_pure, Act.leads_modify]
  rintro _ _ rfl
  rw [rejects.sent, Act.leads_orFail, Act.ends_ok]
  rintro _ _ rfl
  have concluded := rejects.answered
  unfold singly at concluded
  rw [Act.leads_orFail, concluded, Act.ends_ok]
  simpa only [seen, Bool.false_and, still] using next

theorem executeSingle_rejected (gate : e.inFlight = false) (seen : e.startupPending = false)
    (rejects : Rejects reply e.singly s answer message) {ok : Unit → Engine → Unit → Prop}
    {failed : Fault → Engine → Unit → Prop}
    (next : ∀ lastOutput, failed (.rejected message) { e with undo := e.undo.announce e.proved, lastOutput } ()) :
    (executeSingle s).Leads (replying reply) ok failed e () := by
  obtain ⟨error, found, rfl⟩ := Option.map_eq_some_iff.mp rejects.error
  simp only [executeSingle, Act.leads_bind, Act.leads_get, Act.leads_modify]
  apply submit_replied (e := { e with undo := e.undo.announce e.proved }) gate seen rejects
  rw [show (Response.ofCounter e.rules answer).error = some error from found]
  exact next _

theorem stepForward_rejected (gate : e.inFlight = false) (seen : e.startupPending = false)
    (found : e.outline.next? e.offset = some s) (rejects : Rejects reply e.singly s answer message)
    {ok : Unit → Engine → Unit → Prop} {failed : Fault → Engine → Unit → Prop}
    (next : ∀ lastOutput, failed (.rejected message) { e with undo := e.undo.announce e.proved, lastOutput } ()) :
    stepForward.Leads (replying reply) ok failed e () := by
  simp only [stepForward, ensureSession, ready, Act.leads_bind, Act.leads_get, found, Option.isSome_some, ↓reduceIte,
    Act.leads_ask, replying_asks, replying_answers, true_and]
  rintro _ _ rfl
  simp only [rejects.running, gate, Act.leads_pure, found, Bool.not_false, Bool.and_true, Bool.not_true,
    Bool.false_eq_true, ↓reduceIte]
  exact executeSingle_rejected gate seen rejects next

/-- A step whose statement is rejected fails with the prover's words, and leaves an engine that acts alike. -/
theorem perform_rejected (rests : e.Rests) (gate : e.inFlight = false) (seen : e.startupPending = false)
    (found : e.outline.next? e.offset = some s) (rejects : Rejects reply e.singly s answer message) :
    (e.perform .stepForward).Leads (replying reply)
      (fun p _ => p.1 = .failure message e.offset ∧ e.Alike UndoLog.Alike p.2) () := by
  have read := rests.begun found .stepForward
  have announced : e.undo.Alike (e.undo.announce e.proved) := by
    unfold UndoLog.announce
    split
    · exact ⟨_, rfl⟩
    · exact .refl _
  have later : ((e.begun .stepForward).transactions.finish (e.transactions.begin .stepForward).2).1 =
      e.transactions.later := by
    simp [Engine.begun, Intent.reason, TransactionLog.begin, TransactionLog.finish, TransactionLog.later, rests.closed]
  apply performing_leads (replying_quiet reply) .stepForward fun o e' _ =>
    o = .failure message e.offset ∧ e.Alike UndoLog.Alike e'
  apply stepForward_rejected (e := e.begun .stepForward) gate seen (by rw [read]; exact found) rejects
  intro lastOutput
  refine ⟨rfl, _, lastOutput, announced, ?_⟩
  show ({ e with
    outline := (e.begun .stepForward).outline
    undo := e.undo.announce e.proved
    activity := .idle
    transactions := ((e.begun .stepForward).transactions.finish (e.transactions.begin .stepForward).2).1
    lastOutput } : Engine) = _
  rw [read, later, ← rests.idle]

end Engine

/-! ## The course of the step -/

namespace Desk
variable {d : Desk}

/-- The desk when it has taken the updates from its inbox, and there is no edit to be retracted. -/
def updated (d : Desk) : Desk := { d with engine := d.takeDocument.engine, inbox := {} }

theorem takeDocument_eq (d : Desk) :
    d.takeDocument = { d with engine := d.takeDocument.engine, inbox := { d.inbox with document := none } } := by
  obtain ⟨engine, ⟨_ | text, edit⟩, noted, offset, holder, waiting⟩ := d
  · rfl
  · rfl

theorem updated_of_edit (d : Desk) : { d.takeDocument with inbox := { d.takeDocument.inbox with edit := none } } =
    d.updated := by
  rw [takeDocument_eq]
  rfl

theorem updated_of_empty (empty : d.inbox = {}) : d.updated = d := by
  obtain ⟨engine, inbox, noted, offset, holder, waiting⟩ := d
  cases empty
  rfl

theorem updated_shows (d : Desk) : d.ShowsSame d.updated := by
  obtain ⟨document, version, outline, engine⟩ := d.takeDocument_engine
  refine ⟨rfl, ?_, ?_, ?_⟩
  · show d.takeDocument.engine.offset = _
    rw [engine]
  · show d.takeDocument.engine.proved = _
    rw [engine]
  · show d.takeDocument.engine.undo.snapshot = _
    rw [engine]

/-- A call to a free desk, where no edit lies in the verified region. -/
theorem call_updated (free : d.holder = none) (outside : ∀ edit, d.inbox.edit = some edit → d.engine.offset ≤ edit)
    (ticket : Ticket) (i : Intent) : d.call ticket (.intent i) = d.updated.perform ticket .acting i := by
  simp only [call, free, Option.isSome_none, Bool.false_eq_true, ↓reduceIte, drain, takeDocument_edit]
  split
  · next none =>
    have empty : ({ d.inbox with document := .none } : Inbox) = {} := by simp [none]
    have same : d.takeDocument = d.updated := by
      rw [takeDocument_eq, empty]
      rfl
    rw [same]
  · next edit some =>
    rw [updated_of_edit]
    have beyond : ¬ edit < d.updated.takeDocument.engine.offset := by
      show ¬ edit < d.updated.engine.offset
      rw [d.updated_shows.verified]
      exact Nat.not_lt.mpr (outside edit some)
    exact if_neg beyond

theorem perform_leads {σ : Type} {C : Contract σ} {i : Intent} {post : Outcome × Engine → σ → Prop} {s : σ}
    (leads : (d.engine.perform i).Leads C post s) (ticket : Ticket) (phase : Phase) :
    ∃ work, (d.perform ticket phase i).work = some work ∧
      work.Leads C (fun f s => ∃ o e, f = .performed o e ∧ post (o, e) s) s := by
  refine ⟨_, rfl, ?_⟩
  rw [Dialogue.leads_bind]
  exact leads.mono fun p _ holds => ⟨p.1, p.2, rfl, holds⟩

/-- A desk that has let go of an engine that acts alike is alike. -/
theorem alike_released {e : Engine} (free : d.holder = none) (alone : d.waiting = [])
    (shown : d.offset = d.engine.offset) (alike : d.engine.Alike UndoLog.Alike e) (noted : Status) :
    d.Alike { d with engine := e, noted, offset := e.offset, holder := none, waiting := [] } := by
  obtain ⟨engine, inbox, _, _, _, _⟩ := d
  cases free
  cases alone
  dsimp only at shown
  subst shown
  obtain ⟨undo, lastOutput, related, rfl⟩ := alike
  exact ⟨_, noted, ⟨undo, lastOutput, related, rfl⟩, rfl⟩

end Desk

namespace Course
variable {c : Course} {reply : (q : Query) → q.Reply}

theorem play_idle (idle : c.work = none) (n : Nat) : c.play reply n = c := by
  cases n with
  | zero => rfl
  | succ n => simp [play, idle]

theorem play_add (m n : Nat) (c : Course) : c.play reply (m + n) = (c.play reply m).play reply n := by
  fun_induction play reply m c with
  | case1 c => rw [Nat.zero_add]
  | case2 m c idle => rw [play_idle idle, play_idle idle]
  | case3 m c q next waits ih => rw [← ih, Nat.succ_add, play, waits]
  | case4 m c f ended ih => rw [← ih, Nat.succ_add, play, ended]

/-- A dialogue goes on to its end as its questions are answered. -/
theorem play_dialogue {d : Dialogue Finding} (waits : c.work = some d) {post : Finding → Unit → Prop}
    (leads : d.Leads (replying reply) post ()) :
    ∃ n f asked, post f () ∧ c.play reply n = { c with work := some (.done f), asked := c.asked ++ asked } := by
  induction d generalizing c with
  | done f => exact ⟨0, f, [], leads, by simp [play, ← waits]⟩
  | ask q next ih =>
    obtain ⟨n, f, asked, holds, plays⟩ := @ih (reply q) (c.hear q (reply q) (some (next (reply q)))) rfl
      (leads.2 (reply q) () rfl)
    refine ⟨n + 1, f, ⟨q, reply q⟩ :: asked, holds, ?_⟩
    rw [play, waits]
    show play reply n (c.hear q (reply q) (some (next (reply q)))) = _
    rw [plays]
    simp [hear]

/-- When an operation has ended and no edit has come, its call is answered after one more question. -/
theorem play_concluded {d : Desk} {ticket : Ticket} (held : d.holder = some (ticket, .acting))
    (edit : d.inbox.edit = none) (alone : d.waiting = []) (o : Outcome) (e : Engine) (asked : List Asked)
    (answers : List (Ticket × Answer)) :
    play reply 3 ⟨d, some (.done (.performed o e)), asked, answers⟩ =
      ⟨{ d with
          engine := e
          noted := ⟨e.activity, e.offset, e.proved, e.undo.valid, reply .running && !e.inFlight⟩
          offset := e.offset
          holder := none
          waiting := [] }, none, asked ++ [⟨.running, reply .running⟩], answers ++ [(ticket, .outcome o)]⟩ := by
  obtain ⟨engine, ⟨document, _⟩, noted, offset, _, _⟩ := d
  cases held
  cases edit
  cases alone
  simp only [play, Course.proceed, Desk.proceed, Desk.drain, Desk.wrapUp, List.append_nil]
  rfl

/-- The step comes to an end in a free desk, which is alike to the one that has only taken its updates. -/
theorem step_rejected {settings : Settings} (reached : c.Reached settings) (free : c.desk.holder = none)
    (outside : ∀ edit, c.desk.inbox.edit = some edit → c.desk.engine.offset ≤ edit)
    (gate : c.desk.updated.engine.inFlight = false) (seen : c.desk.updated.engine.startupPending = false)
    {s : Statement} (found : c.desk.updated.engine.outline.next? c.desk.updated.engine.offset = some s)
    {answer : Counter} {message : String} (rejects : Rejects reply c.desk.updated.engine.singly s answer message)
    (ticket : Ticket) :
    ∃ n, ∃ desk asked, c.desk.updated.Alike desk ∧
      (c.call ticket (.intent .stepForward)).play reply n = ⟨desk, none, c.asked ++ asked,
        c.answers ++ [(ticket, .outcome (.failure message c.desk.engine.offset))]⟩ := by
  obtain ⟨-, rests, alone, shown⟩ := reached.rests free
  have offset := c.desk.updated_shows.verified
  have rests' : c.desk.updated.engine.Rests := rests.takeDocument
  obtain ⟨work, begun, leads⟩ :=
    Desk.perform_leads (Engine.perform_rejected rests' gate seen found rejects) ticket .acting
  have waits : (c.call ticket (.intent .stepForward)).work = some work := by
    rw [Course.call, Desk.call_updated free outside, begun]
    rfl
  obtain ⟨n, _, asked, ⟨_, e, rfl, failed, alike⟩, plays⟩ := play_dialogue waits leads
  dsimp only at failed alike
  rw [offset] at failed
  subst failed
  refine ⟨n + 3, ?_⟩
  have concludes := @play_concluded reply (c.desk.updated.perform ticket .acting .stepForward).desk ticket rfl rfl
    alone (.failure message c.desk.engine.offset) e (c.asked ++ asked) c.answers
  rw [play_add, plays]
  simp only [Course.call, Desk.call_updated free outside]
  rw [show (c.desk.updated.perform ticket .acting .stepForward).answers = [] from rfl, List.append_nil, concludes,
    List.append_assoc]
  exact ⟨_, _, Desk.alike_released (d := c.desk.updated) free alone (by rw [offset]; exact shown) alike _, rfl⟩

end Course

/-- A statement is sent to a session that has shown a marker, through an open gate and with nothing left unheard, and
its answer holds an error. The step fails with the error of the first output that holds one, from its beginning, and
trimmed, and the region and the states are shown as before. Whatever happens later, the same is asked and answered, and
the same region and states are shown, as if the step had not been asked for. -/
theorem rejected_statement_invisible {settings : Settings} {c : Course} (reached : c.Reached settings)
    (free : c.desk.holder = none) (outside : ∀ edit, c.desk.inbox.edit = some edit → c.desk.engine.offset ≤ edit)
    {e : Engine} (updated : c.desk.updated.engine = e) (gate : e.inFlight = false) (seen : e.startupPending = false)
    {s : Statement} (found : e.outline.next? e.offset = some s) {reply : (q : Query) → q.Reply} {answer : Counter}
    {message : String} (rejects : Rejects reply e.singly s answer message) (ticket : Ticket) :
    ∃ n after, (c.call ticket (.intent .stepForward)).play reply n = after ∧ after.work = none ∧
      after.answers = c.answers ++ [(ticket, .outcome (.failure message e.offset))] ∧
      ((answer.segments.map (·.output) ++ [answer.trailing]).findSome? fun output =>
        (e.rules.errors.find? output.toList).map fun found => String.ofList (Text.trim found)) = some message ∧
      c.desk.ShowsSame after.desk ∧ Course.GoOnAlike { c with desk := c.desk.updated } after := by
  subst updated
  obtain ⟨n, desk, asked, alike, plays⟩ := Course.step_rejected reached free outside gate seen found rejects ticket
  refine ⟨n, _, plays, rfl, ?_, ?_, ?_, Course.goOnAlike alike ?_⟩
  · rw [c.desk.updated_shows.verified]
  · rw [← Response.firstError_message]
    exact rejects.error
  · exact c.desk.updated_shows.trans alike.shows
  · rw [show c.work = none from (reached.rests free).1]
    exact .none

/-- The first of two statements is verified. -/
def firstCourse : Course := sayingCourse "[1|check]>\n" "a. b." .standard

/-- The second one is rejected, and everything goes on as if it had not been sent. -/
theorem second_statement_invisible : ∃ (c : Course) (answer : Counter) (reply : (q : Query) → q.Reply),
    (c.Reached {} ∧ c.desk.holder = none ∧ c.desk.inbox = {} ∧ c.desk.engine.inFlight = false ∧
      c.desk.engine.startupPending = false ∧ c.desk.engine.outline.next? c.desk.engine.offset = some ⟨"b.", 3, 5⟩ ∧
      Rejects reply c.desk.engine.singly ⟨"b.", 3, 5⟩ answer "[error-1]cannot prove b.") ∧
    ∃ n after, (c.call 2 (.intent .stepForward)).play reply n = after ∧
      after.answers = c.answers ++ [(2, .outcome (.failure "[error-1]cannot prove b." 2))] ∧
      c.desk.ShowsSame after.desk ∧ c.GoOnAlike after := by
  have reachedOn : firstCourse.ReachedOn {} fun _ => True :=
    ⟨.standard, Desk.ofSettings_default, sayingCourse_steps _ trivial _⟩
  have free : firstCourse.desk.holder = none := by decide +kernel
  have empty : firstCourse.desk.inbox = {} := by decide +kernel
  have gate : firstCourse.desk.engine.inFlight = false := by decide +kernel
  have seen : firstCourse.desk.engine.startupPending = false := by decide +kernel
  have found : firstCourse.desk.engine.outline.next? firstCourse.desk.engine.offset = some ⟨"b.", 3, 5⟩ := by
    decide +kernel
  have rejects : Rejects (sayingReply "+ b.\n[error-1]cannot prove b.\n[1|check]>\n" true)
      firstCourse.desk.engine.singly ⟨"b.", 3, 5⟩ (({} : Counter).feed "+ b.\n[error-1]cannot prove b.\n[1|check]>\n")
      "[error-1]cannot prove b." :=
    ⟨rfl, rfl, rfl, by decide +kernel, by decide +kernel⟩
  refine ⟨firstCourse, _, _, ⟨reachedOn.reached, free, empty, gate, seen, found, rejects⟩, ?_⟩
  have still := Desk.updated_of_empty empty
  obtain ⟨n, after, plays, -, answers, -, shows, goOn⟩ := rejected_statement_invisible reachedOn.reached free
    (by simp [empty]) (congrArg Desk.engine still) gate seen found rejects 2
  have offset : firstCourse.desk.engine.offset = 2 := by decide +kernel
  rw [still] at goOn
  rw [offset] at answers
  exact ⟨n, after, plays, answers, shows, goOn⟩

end Frontier
