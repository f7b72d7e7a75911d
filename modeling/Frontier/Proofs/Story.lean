import Frontier.Proofs.Replies
import Frontier.Proofs.Telling

/-!
# The story that the events tell

Whatever the prover does and whenever hosts call, what a host is told is the story of the operations that were carried
out, in order and one after the other. While the engine is free, the last end of the region that the story tells is the
one that everybody is shown.
-/

namespace Frontier

/-- An operation that was carried out: for whom and in which phase of the call, on which engine, and what came of it. -/
structure Operation where
  ticket : Ticket
  phase : Phase
  before : Engine
  outcome : Outcome
  after : Engine

namespace Operation

/-- The call whose intent was carried out, unless it was a retraction for an edit. -/
def request? (op : Operation) : Option Ticket := if op.phase = .acting then some op.ticket else none

/-- What the host is told of an operation with a number. -/
def Told (op : Operation) (number : Nat) (told : List Notification) : Prop :=
  ∃ reason, (op.request? = none → reason = .retraction) ∧
    Engine.Tells ⟨number, reason⟩ op.before.offset op.outcome op.after told

end Operation

/-- What the host is told of several operations, which are numbered from 1 on. -/
inductive Story : List Operation → List Notification → Prop
  | none : Story [] []
  | next {ops told op more} (before : Story ops told) (last : op.Told (ops.length + 1) more) :
    Story (ops ++ [op]) (told ++ more)

theorem Story.transactions {ops : List Operation} {told : List Notification} (story : Story ops told) :
    told.filterMap Notification.transaction? = List.range' 1 ops.length := by
  induction story with
  | none => rfl
  | @next ops told op more before last ih =>
    obtain ⟨reason, -, tells⟩ := last
    rw [List.filterMap_append, ih, tells.transaction, List.length_append, List.length_singleton, List.range'_concat,
      Nat.one_mul, Nat.add_comm]

/-- The intents that were carried out and answered, by the tickets of their calls. -/
def answered (answers : List (Ticket × Answer)) : List Ticket :=
  answers.filterMap fun
    | (ticket, .outcome o) => if o.isBusy then none else some ticket
    | _ => none

/-- The call whose intent was carried out, if its answer is still to come in a phase. -/
def Phase.unanswered (ticket : Ticket) : Phase → List Ticket
  | .closing _ => [ticket]
  | .recording (.outcome _) => [ticket]
  | _ => []

/-- The intent that was carried out and has not been answered yet. -/
def Desk.unanswered (d : Desk) : List Ticket :=
  match d.holder with
  | some (ticket, phase) => phase.unanswered ticket
  | none => []

/-- The operation that has come to an end with the dialogue of a phase. -/
def Desk.concluded (d : Desk) (f : Finding) : Option Operation :=
  match d.holder, f with
  | some (ticket, phase), .performed o e => some ⟨ticket, phase, d.engine, o, e⟩
  | _, _ => none

namespace Course

/-- What the host has been told. -/
def told (c : Course) : List Notification := telling.sum c.asked

/-- What may come of a new desk, and the operations that were carried out on the way. -/
inductive History (settings : Settings) : Course → List Operation → Prop
  | opened {desk} (opened : Desk.ofSettings settings = .ok desk) : History settings { desk } []
  | call {c ops} (history : History settings c ops) (ticket : Ticket) (x : Call) : History settings (c.call ticket x) ops
  | hear {c ops} (history : History settings c ops) (q : Query) (next : q.Reply → Dialogue Finding) (r : q.Reply)
    (waits : c.work = some (.ask q next)) : History settings (c.hear q r (some (next r))) ops
  | proceed {c ops} (history : History settings c ops) (f : Finding) (ended : c.work = some (.done f)) :
    History settings (c.proceed f) (ops ++ (c.desk.concluded f).toList)
  | look {c ops} (history : History settings c ops) (running : Bool) (free : c.desk.holder = none) :
    History settings (c.hear .running running c.work) ops

theorem Reached.history {settings : Settings} {c : Course} (reached : c.Reached settings) :
    ∃ ops, c.History settings ops := by
  obtain ⟨desk, opened, path⟩ := reached
  induction path with
  | refl => exact ⟨[], .opened opened⟩
  | tail path step ih =>
    obtain ⟨ops, history⟩ := ih
    cases step with
    | call ticket x => exact ⟨ops, history.call ticket x⟩
    | hear q next r waits => exact ⟨ops, history.hear q next r waits⟩
    | proceed f ended => exact ⟨_, history.proceed f ended⟩
    | look running free => exact ⟨ops, history.look running free⟩

theorem told_hear (c : Course) (q : Query) (r : q.Reply) (rest : Option (Dialogue Finding)) :
    (c.hear q r rest).told = c.told ++ q.told r := telling.sum_concat c.asked ⟨q, r⟩

end Course

/-- An engine that has carried out so many operations, and of which so much was told. -/
structure Engine.Recounted (ops : List Operation) (e : Engine) (told : List Notification) : Prop where
  story : Story ops told
  transactions : e.transactions = ⟨ops.length, none⟩
  offset : lastOffset told = e.offset

namespace Engine.Recounted
variable {ops : List Operation} {e : Engine} {told : List Notification}

/-- One more operation is carried out. -/
theorem perform (recounted : Recounted ops e told) (ticket : Ticket) (phase : Phase) (i : Intent)
    (meant : phase = .acting ∨ i.reason = .retraction) :
    (e.perform i).Leads telling.contract (fun p told' =>
      p.1.offset = some p.2.offset ∧ Recounted (ops ++ [⟨ticket, phase, e, p.1, p.2⟩]) p.2 told') told := by
  refine (perform_tells e i told).mono ?_
  rintro ⟨o, e'⟩ _ ⟨shown, closed, more, rfl, tells⟩
  rw [recounted.transactions] at closed tells
  refine ⟨shown, recounted.story.next ⟨i.reason, ?_, tells⟩, ?_, tells.lastOffset recounted.offset⟩
  · rcases meant with rfl | retracts
    · intro none
      cases none
    · exact fun _ => retracts
  · rw [closed, List.length_append]
    rfl

end Engine.Recounted

namespace Desk
variable {ops : List Operation} {d d' : Desk} {told : List Notification}

/-- What the dialogue of the phase in progress has to lead to. -/
def Tells (ops : List Operation) (d : Desk) (f : Finding) (told : List Notification) : Prop :=
  match d.holder, f with
  | some (ticket, phase), .performed o e =>
    phase.operates = true ∧ o.offset = some e.offset ∧ e.Recounted (ops ++ [⟨ticket, phase, d.engine, o, e⟩]) told
  | some (_, .stopping), .stopped e => e.Recounted ops told
  | some (_, .recording a), .status s =>
    d.engine.Recounted ops told ∧ s.offset = d.engine.offset ∧ ∀ o, a = .outcome o → o.offset = some d.engine.offset
  | _, _ => False

/-- All operations are told of while the engine is free, and the phase in progress leads back to that. -/
def Recounts (ops : List Operation) : Desk → Option (Dialogue Finding) → List Notification → Prop :=
  Course.Holds telling.contract (fun d told => d.engine.Recounted ops told ∧ d.offset = d.engine.offset) (Tells ops)

theorem Drained.recounted (drained : d.Drained d') (recounted : d.engine.Recounted ops told) :
    d'.engine.Recounted ops told := by
  obtain ⟨document, version, outline, same⟩ := drained.engine
  rw [same]
  exact { recounted with }

theorem perform_recounts (ticket : Ticket) (phase : Phase) (operates : phase.operates = true) (i : Intent)
    (meant : phase = .acting ∨ i.reason = .retraction) (recounted : d.engine.Recounted ops told) :
    Recounts ops (d.perform ticket phase i).desk (d.perform ticket phase i).work told := by
  refine ⟨rfl, ?_⟩
  rw [Dialogue.leads_bind]
  refine (recounted.perform ticket phase i meant).mono ?_
  rintro p told' ⟨shown, recounted'⟩
  exact ⟨operates, shown, recounted'⟩

theorem wrapUp_recounts (ticket : Ticket) (a : Answer) (shown : ∀ o, a = .outcome o → o.offset = some d.engine.offset)
    (recounted : d.engine.Recounted ops told) :
    Recounts ops (d.wrapUp ticket a).desk (d.wrapUp ticket a).work told := by
  refine ⟨rfl, trivial, ?_⟩
  rintro running _ ⟨-, rfl⟩
  have same : told ++ Query.told .running running = told := List.append_nil told
  refine ⟨?_, rfl, shown⟩
  show d.engine.Recounted ops (told ++ Query.told .running running)
  rwa [same]

theorem stop_recounts (ticket : Ticket) (answers : List (Ticket × Answer)) (recounted : d.engine.Recounted ops told) :
    Recounts ops (d.stop ticket answers).desk (d.stop ticket answers).work told := by
  refine ⟨rfl, trivial, ?_⟩
  rintro halted _ ⟨-, rfl⟩
  show Engine.Recounted ops { d.engine with inFlight := false } (told ++ [])
  rw [List.append_nil]
  exact { recounted with }

theorem release_recounts (answers : List (Ticket × Answer)) (waiting : List (Ticket × Bool))
    (recounted : d.engine.Recounted ops told) (noted : d.offset = d.engine.offset) :
    Recounts ops (d.release answers waiting).desk (d.release answers waiting).work told := by
  obtain ⟨shown, -, free | ⟨ticket, rest, stops⟩⟩ := d.release_cases answers waiting
  · rw [free]
    exact ⟨rfl, recounted, noted⟩
  · rw [stops]
    exact stop_recounts ticket _ recounted

theorem call_recounts (ticket : Ticket) (x : Call) (free : d.holder = none) (recounted : d.engine.Recounted ops told)
    (noted : d.offset = d.engine.offset) : Recounts ops (d.call ticket x).desk (d.call ticket x).work told := by
  cases x with
  | update document version edit =>
    obtain ⟨d', drained, ⟨-, goesOn⟩ | ⟨first, -, -, retracts⟩⟩ := update_cases free ticket document version edit
    · rw [goesOn]
      refine wrapUp_recounts ticket _ ?_ (Drained.recounted drained recounted)
      rintro _ ⟨⟩
    · rw [retracts]
      exact perform_recounts ticket .settling rfl _ (.inr rfl) (Drained.recounted drained recounted)
  | intent i =>
    obtain ⟨d', drained, ⟨-, goesOn⟩ | ⟨first, -, -, retracts⟩⟩ := intent_cases free ticket i
    · rw [goesOn]
      exact perform_recounts ticket .acting rfl _ (.inl rfl) (drained.recounted recounted)
    · rw [retracts]
      exact perform_recounts ticket (.opening i) rfl _ (.inr rfl) (drained.recounted recounted)
  | snapshot =>
    simp only [Desk.call, free, Option.isSome_none, Bool.false_eq_true, ↓reduceIte]
    exact ⟨free, recounted, noted⟩
  | shutdown =>
    simp only [Desk.call, free, Option.isSome_none, Bool.false_eq_true, ↓reduceIte]
    exact stop_recounts ticket [] recounted

/-- The next phase recounts one operation more, if one has come to an end. -/
theorem proceed_recounts {f : Finding} (tells : d.Tells ops f told) :
    Recounts (ops ++ (d.concluded f).toList) (d.proceed f).desk (d.proceed f).work told := by
  unfold Tells at tells
  split at tells
  · next ticket phase o e held =>
    obtain ⟨operates, shown, recounted⟩ := tells
    have concludes : (d.concluded (.performed o e)).toList = [⟨ticket, phase, d.engine, o, e⟩] := by
      simp [concluded, held]
    rw [concludes]
    have follows := performed_follows held operates o e
    generalize d.proceed (.performed o e) = m at follows ⊢
    cases follows with
    | retracts drained edit pending inside =>
      rw [← Phase.again_operates o] at operates
      exact perform_recounts ticket _ operates _ (.inr rfl) (drained.recounted recounted)
    | opens drained i held => exact perform_recounts ticket .acting rfl i (.inl rfl) (drained.recounted recounted)
    | answers drained =>
      refine wrapUp_recounts ticket _ ?_ (drained.recounted recounted)
      intro o' answer
      rw [Phase.answer_offset answer, drained.engine_offset]
      exact shown
  · next ticket e held =>
    simp only [concluded, Desk.proceed, held, Option.toList_none, List.append_nil]
    refine wrapUp_recounts ticket .shutDown ?_ tells
    rintro _ ⟨⟩
  · next ticket a status held =>
    obtain ⟨recounted, noted, -⟩ := tells
    simp only [concluded, held, Option.toList_none, List.append_nil, proceed_status held]
    exact release_recounts [(ticket, a)] d.waiting recounted noted
  · exact tells.elim

/-! ### Answers -/

theorem answered_append (xs ys : List (Ticket × Answer)) : answered (xs ++ ys) = answered xs ++ answered ys :=
  List.filterMap_append

/-- No intent is answered at once, unless it is turned away. -/
theorem call_answers (d : Desk) (ticket : Ticket) (x : Call) :
    (∀ t o, (t, Answer.outcome o) ∈ (d.call ticket x).answers → o = .busy) ∧ answered (d.call ticket x).answers = [] ∧
      (d.call ticket x).desk.unanswered = d.unanswered := by
  cases held : d.holder with
  | some h => cases x <;> simp [Desk.call, held, answered, Outcome.busy, Outcome.isBusy, unanswered]
  | none =>
    have idle : d.unanswered = [] := by simp [unanswered, held]
    cases x with
    | update document version edit =>
      obtain ⟨d', -, ⟨-, goesOn⟩ | ⟨first, -, -, retracts⟩⟩ := update_cases held ticket document version edit
      · rw [goesOn, idle]
        exact ⟨by simp [Desk.wrapUp], rfl, rfl⟩
      · rw [retracts, idle]
        exact ⟨by simp [Desk.perform], rfl, rfl⟩
    | intent i =>
      obtain ⟨d', -, ⟨-, goesOn⟩ | ⟨first, -, -, retracts⟩⟩ := intent_cases held ticket i
      · rw [goesOn, idle]
        exact ⟨by simp [Desk.perform], rfl, rfl⟩
      · rw [retracts, idle]
        exact ⟨by simp [Desk.perform], rfl, rfl⟩
    | snapshot => simp [Desk.call, held, answered, unanswered]
    | shutdown => simp [Desk.call, held, answered, Desk.stop, unanswered, Phase.unanswered]

/-- The calls that wait are not intents. -/
theorem release_answers (d : Desk) (answers : List (Ticket × Answer)) (waiting : List (Ticket × Bool)) :
    (∀ t o, (t, Answer.outcome o) ∈ (d.release answers waiting).answers → (t, .outcome o) ∈ answers) ∧
      answered (d.release answers waiting).answers = answered answers ∧
      (d.release answers waiting).desk.unanswered = [] ∧ (d.release answers waiting).desk.offset = d.offset := by
  obtain ⟨shown, snapshots, released⟩ := d.release_cases answers waiting
  obtain ⟨given, idle, offset⟩ : (d.release answers waiting).answers = answers ++ shown ∧
      (d.release answers waiting).desk.unanswered = [] ∧ (d.release answers waiting).desk.offset = d.offset := by
    rcases released with free | ⟨ticket, rest, stops⟩
    · rw [free]
      exact ⟨rfl, rfl, rfl⟩
    · rw [stops]
      exact ⟨rfl, rfl, rfl⟩
  have none : answered shown = [] := by
    rw [answered, List.filterMap_eq_nil_iff]
    intro a mem
    obtain ⟨snapshot, same⟩ := snapshots a mem
    obtain ⟨t, a⟩ := a
    subst same
    rfl
  refine ⟨?_, by rw [given, answered_append, none, List.append_nil], idle, offset⟩
  intro t o mem
  rw [given] at mem
  rcases List.mem_append.mp mem with mem | mem
  · exact mem
  · obtain ⟨snapshot, same⟩ := snapshots _ mem
    cases same

/-- An intent that was carried out is answered once, with the end of the region as the host was last told. -/
theorem proceed_answers {f : Finding} (tells : d.Tells ops f told) :
    (∀ t o, (t, Answer.outcome o) ∈ (d.proceed f).answers →
      o.offset = some (d.proceed f).desk.offset ∧ (d.proceed f).desk.offset = lastOffset told) ∧
      d.unanswered ++ (d.concluded f).toList.filterMap Operation.request? =
        answered (d.proceed f).answers ++ (d.proceed f).desk.unanswered := by
  unfold Tells at tells
  split at tells
  · next ticket phase o e held =>
    obtain ⟨operates, -, -⟩ := tells
    have follows := performed_follows held operates o e
    generalize d.proceed (.performed o e) = m at follows ⊢
    have silent : m.answers = [] := by
      cases follows with
      | retracts | opens | answers => rfl
    -- Until the answer comes, the phases that follow an operation remember that it was carried out.
    have awaited : phase.unanswered ticket ++ ([⟨ticket, phase, d.engine, o, e⟩] : List Operation).filterMap
        Operation.request? = m.desk.unanswered := by
      cases follows with
      | retracts drained edit pending inside => cases phase <;> first | rfl | cases operates
      | opens drained i held =>
        subst held
        rfl
      | answers drained => cases phase <;> first | rfl | cases operates
    refine ⟨by simp [silent], ?_⟩
    rw [silent, ← awaited]
    simp [unanswered, concluded, held, answered]
  · next ticket e held =>
    simp [unanswered, concluded, Desk.proceed, held, Desk.wrapUp, Phase.unanswered, answered]
  · next ticket a status held =>
    obtain ⟨recounted, noted, shown⟩ := tells
    obtain ⟨given, count, idle, offset⟩ :=
      release_answers { d with noted := status, offset := status.offset } [(ticket, a)] d.waiting
    rw [proceed_status held, count, idle, offset]
    refine ⟨?_, ?_⟩
    · intro t o mem
      obtain ⟨-, own⟩ : t = ticket ∧ Answer.outcome o = a := by simpa using given t o mem
      exact ⟨by rw [shown o own.symm, ← noted], noted.trans recounted.offset.symm⟩
    · simp only [unanswered, concluded, held, Option.toList_none, List.filterMap_nil, List.append_nil]
      cases a with
      | outcome o => simp [Phase.unanswered, answered, Outcome.isBusy, shown o rfl]
      | _ => rfl
  · exact tells.elim

end Desk

/-! ## Courses -/

namespace Course
variable {settings : Settings} {c : Course} {ops : List Operation}

theorem recounts_opened {desk : Desk} (opened : Desk.ofSettings settings = .ok desk) :
    Desk.Recounts [] desk none [] ∧ desk.unanswered = [] := by
  obtain ⟨e, made, rfl⟩ := Desk.ofSettings_ok opened
  obtain ⟨rules, -, rfl⟩ := Engine.ofSettings_ok made
  exact ⟨⟨rfl, ⟨.none, rfl, rfl⟩, rfl⟩, rfl⟩

/-- Whatever happens, the host is told of the operations, and they are accounted for by the answers. -/
theorem History.recounts (history : c.History settings ops) : Desk.Recounts ops c.desk c.work c.told ∧
    ops.filterMap Operation.request? = answered c.answers ++ c.desk.unanswered := by
  induction history with
  | @opened desk opened =>
    obtain ⟨recounts, idle⟩ := recounts_opened opened
    exact ⟨recounts, by simp [answered, idle]⟩
  | @call c ops history ticket x ih =>
    obtain ⟨recounts, accounted⟩ := ih
    obtain ⟨-, silent, same⟩ := Desk.call_answers c.desk ticket x
    refine ⟨?_, by simp only [Course.call, Desk.answered_append, silent, same, List.append_nil, accounted]⟩
    refine Holds.call recounts ticket x ?_ ?_
    · intro d' holder engine
      funext f told
      simp only [Desk.Tells, holder, engine]
    · rintro free ⟨recounted, noted⟩
      exact Desk.call_recounts ticket x free recounted noted
  | @hear c ops history q next r waits ih =>
    obtain ⟨recounts, accounted⟩ := ih
    refine ⟨?_, accounted⟩
    rw [told_hear]
    exact (Holds.hear recounts waits ((telling_answers _ _ _ _).mpr rfl)).2
  | @proceed c ops history f ended ih =>
    obtain ⟨recounts, accounted⟩ := ih
    have tells : c.desk.Tells ops f c.told := Holds.ended recounts ended
    refine ⟨Desk.proceed_recounts tells, ?_⟩
    rw [List.filterMap_append, accounted, List.append_assoc, (Desk.proceed_answers tells).2]
    simp [Course.proceed, Desk.answered_append]
  | @look c ops history running free ih =>
    obtain ⟨recounts, accounted⟩ := ih
    refine ⟨?_, accounted⟩
    rw [told_hear, show Query.told .running running = [] from rfl, List.append_nil]
    exact recounts

/-- At most one operation is being told of. -/
theorem History.beginning (history : c.History settings ops) :
    ∃ last more, last.length ≤ 1 ∧ Story (ops ++ last) (c.told ++ more) := by
  obtain ⟨recounts, -⟩ := history.recounts
  cases working : c.work with
  | none =>
    simp only [working, Desk.Recounts, Holds] at recounts
    exact ⟨[], [], Nat.zero_le _, by simpa using recounts.2.1.story⟩
  | some work =>
    simp only [working, Desk.Recounts, Holds] at recounts
    obtain ⟨f, more, tells⟩ := recounts.2.ends
    unfold Desk.Tells at tells
    split at tells
    · exact ⟨_, more, by simp, tells.2.2.story⟩
    · exact ⟨[], more, Nat.zero_le _, by simpa using tells.story⟩
    · exact ⟨[], more, Nat.zero_le _, by simpa using tells.1.story⟩
    · exact tells.elim

/-- An answer to an intent that was not turned away comes last in its call. -/
theorem History.shows (history : c.History settings ops) {c' : Course} {given : List (Ticket × Answer)}
    (step : Step c c') (answers : c'.answers = c.answers ++ given) {t : Ticket} {o : Outcome}
    (mem : (t, .outcome o) ∈ given) :
    o = .busy ∨ o.offset = some c'.desk.offset ∧ c'.desk.offset = lastOffset c'.told := by
  obtain ⟨recounts, -⟩ := history.recounts
  cases step with
  | call ticket x =>
    obtain rfl := List.append_cancel_left answers
    exact .inl ((Desk.call_answers c.desk ticket x).1 t o mem)
  | hear q next r waits =>
    obtain rfl : [] = given := by simpa [Course.hear] using answers
    cases mem
  | proceed f ended =>
    obtain rfl := List.append_cancel_left answers
    have tells : c.desk.Tells ops f c.told := Holds.ended recounts ended
    exact .inr ((Desk.proceed_answers tells).1 t o mem)
  | look running free =>
    obtain rfl : [] = given := by simpa [Course.hear] using answers
    cases mem

end Course

/-- What the host is told is a beginning of the story of the operations that were carried out and at most one more. While
no call is in progress it is the whole story, in which every intent that was not turned away has its place, and its
last offset is the one that everybody is shown. An answer to an intent shows it when it is given. -/
theorem events_tell_story {settings : Settings} {c : Course} (reached : c.Reached settings) :
    (∃ ops, c.History settings ops) ∧ ∀ ops, c.History settings ops →
      (∃ last more, last.length ≤ 1 ∧ Story (ops ++ last) (c.told ++ more)) ∧
      (c.desk.holder = none → Story ops c.told ∧
        c.told.filterMap Notification.transaction? = List.range' 1 ops.length ∧
        ops.filterMap Operation.request? = answered c.answers ∧ c.desk.offset = lastOffset c.told ∧
        c.desk.engine.status.Leads telling.contract (fun s _ => s.offset = lastOffset c.told) c.told) ∧
      ∀ c' given, Course.Step c c' → c'.answers = c.answers ++ given → ∀ t o, (t, .outcome o) ∈ given →
        o = .busy ∨ o.offset = some c'.desk.offset ∧ c'.desk.offset = lastOffset c'.told := by
  refine ⟨reached.history, ?_⟩
  intro ops history
  refine ⟨history.beginning, ?_, fun c' given step answers t o mem => history.shows step answers mem⟩
  intro free
  obtain ⟨recounts, accounted⟩ := history.recounts
  obtain ⟨-, recounted, noted⟩ := Course.Holds.rest recounts free
  refine ⟨recounted.story, recounted.story.transactions, ?_, noted.trans recounted.offset.symm, trivial, ?_⟩
  · rw [accounted, Desk.unanswered, free, List.append_nil]
  · rintro running _ -
    exact recounted.offset.symm

/-- A process takes the first of two statements. -/
theorem first_step_told : ∃ (c : Course) (ops : List Operation), c.Reached {} ∧ c.History {} ops ∧ Story ops c.told ∧
    c.told.filterMap Notification.transaction? = [1] ∧ c.told.filterMap Notification.moved? = [2] ∧
      ops.filterMap Operation.request? = [1] ∧ c.desk.offset = 2 := by
  let c := sayingCourse "[1|check]>\n" "a. b." .standard
  have reachedOn : c.ReachedOn {} fun _ => True := ⟨.standard, Desk.ofSettings_default, sayingCourse_steps _ trivial _⟩
  have free : c.desk.holder = none := by decide +kernel
  have numbers : c.told.filterMap Notification.transaction? = [1] := by decide +kernel
  have moves : c.told.filterMap Notification.moved? = [2] := by decide +kernel
  have answers : answered c.answers = [1] := by decide +kernel
  obtain ⟨⟨ops, history⟩, tells⟩ := events_tell_story reachedOn.reached
  obtain ⟨-, whole, -⟩ := tells ops history
  obtain ⟨story, -, requests, noted, -⟩ := whole free
  exact ⟨c, ops, reachedOn.reached, history, story, numbers, moves, requests.trans answers,
    noted.trans (by rw [lastOffset, moves]; rfl)⟩

end Frontier
