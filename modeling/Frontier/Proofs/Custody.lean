import Frontier.Proofs.Course
import Frontier.Proofs.Passage

/-!
# Custody of the process

A command whose failure leaves the prover's position unknown makes the process useless until it is started anew.
The engine never sends it anything before that, whatever the prover does and whenever hosts call, and when it keeps
its gate closed, the process was told to stop. The only promise of the prover that this needs is that a process told
to stop is not running before the next start; a process that exits by itself may even claim to run.
-/

namespace Frontier

/-- Whether an event tells of the process's exit. -/
def Event.isExit : Event → Bool
  | .exited .. => true
  | _ => false

/-- What questions and answers tell about the process since its last start. -/
structure Standing where
  /-- It was told to stop. -/
  stopped : Bool := false
  /-- A command to it has ended so that its position is not known. -/
  lost : Bool := false
  deriving DecidableEq, Repr

namespace Standing

/-- What one more question and its answer tell. -/
def after (s : Standing) : (q : Query) → q.Reply → Standing
  | .stop, _ => { s with stopped := true }
  | .halt _, _ => { s with stopped := true }
  | .start, .ok _ => {}
  | .drain, events => { s with lost := s.lost || events.any Event.isExit }
  | .send _, .error fault => { s with lost := s.lost || fault.losesPosition }
  | .listen x, heard =>
    match x.conclude x.begin heard with
    | .ok _ => s
    | .error fault => { s with lost := s.lost || fault.losesPosition }
  | _, _ => s

@[simp] theorem after_stop (s : Standing) (r : Query.Reply .stop) : s.after .stop r = { s with stopped := true } := rfl

@[simp] theorem after_halt (s : Standing) (limit : Nat) (r : Query.Reply (.halt limit)) :
    s.after (.halt limit) r = { s with stopped := true } := rfl

@[simp] theorem after_started (s : Standing) (greeting : Greeting) : s.after .start (.ok greeting) = {} := rfl

@[simp] theorem after_notStarted (s : Standing) (fault : Fault) : s.after .start (.error fault) = s := rfl

@[simp] theorem after_drain (s : Standing) (events : List Event) :
    s.after .drain events = { s with lost := s.lost || events.any Event.isExit } := rfl

@[simp] theorem after_sent (s : Standing) (text : String) (sent : Unit) : s.after (.send text) (.ok sent) = s := rfl

@[simp] theorem after_notSent (s : Standing) (text : String) (fault : Fault) :
    s.after (.send text) (.error fault) = { s with lost := s.lost || fault.losesPosition } := rfl

@[simp] theorem after_listen (s : Standing) (x : Exchange) (heard : Transcript) :
    s.after (.listen x) heard = match x.conclude x.begin heard with
      | .ok _ => s
      | .error fault => { s with lost := s.lost || fault.losesPosition } := rfl

/-- A process that was told to stop is not running. -/
def Admits (s : Standing) : (q : Query) → q.Reply → Prop
  | .running, running => running = true → s.stopped = false
  | _, _ => True

/-- No command may be sent to a lost process. -/
def Allows (s : Standing) : Query → Prop
  | .send _ => s.lost = false
  | _ => True

end Standing

/-- What is watched to keep a lost process from being sent anything. -/
def custody : Watch Standing where
  start := {}
  after := Standing.after
  Admits := Standing.Admits
  Allows := Standing.Allows

@[simp] theorem custody_after (s : Standing) (q : Query) (r : q.Reply) : custody.after s q r = s.after q r := rfl

@[simp] theorem custody_admits (s : Standing) (q : Query) (r : q.Reply) : custody.Admits s q r ↔ s.Admits q r := Iff.rfl

@[simp] theorem custody_allows (s : Standing) (q : Query) : custody.Allows s q ↔ s.Allows q := Iff.rfl

namespace Engine

/-- A closed gate and a lost process both mean that the process was told to stop. -/
def Kept (e : Engine) (s : Standing) : Prop :=
  (e.inFlight = true → s.stopped = true) ∧ (s.lost = true → s.stopped = true)

/-- The process is not lost, so that a command may be sent. -/
def Known (e : Engine) (s : Standing) : Prop := Kept e s ∧ s.lost = false

theorem Known.kept {e : Engine} {s : Standing} (known : Known e s) : Kept e s := known.1

/-- A process that runs is known. -/
theorem Kept.known {e : Engine} {s : Standing} (kept : Kept e s) (runs : s.stopped = false) : Known e s := by
  refine ⟨kept, ?_⟩
  cases lost : s.lost with
  | false => rfl
  | true => simp [kept.2 lost] at runs

theorem takeStale_custody (c : Counter) (events : List Event) (e : Engine) (s : Standing) :
    (takeStale c events).Leads custody.contract (fun _ e' s' => e' = e ∧ s' = s ∧ events.any Event.isExit = false)
      (fun fault e' s' => e' = e ∧ s' = s ∧ fault.losesPosition = true) e s := by
  induction events generalizing c with
  | nil => simp [takeStale]
  | cons event rest ih =>
    cases event with
    | output chunk =>
      simp only [takeStale, Act.leads_bind, Act.leads_ask, Watch.contract_asks, Watch.contract_answers]
      refine ⟨trivial, ?_⟩
      rintro _ s' ⟨-, same⟩
      rw [same]
      exact ih _
    | complaint line =>
      simp only [takeStale, Act.leads_bind, Act.leads_ask, Watch.contract_asks, Watch.contract_answers]
      refine ⟨trivial, ?_⟩
      rintro _ s' ⟨-, same⟩
      rw [same]
      exact ih _
    | exited code expected => simp [takeStale, Fault.losesPosition]

theorem exchange_custody (text : String) (x : Exchange) (e : Engine) (s : Standing) (known : s.lost = false) :
    (exchange text x).Leads custody.contract (fun _ e' s' => e' = e ∧ s' = s)
      (fun fault e' s' => e' = e ∧ s' = { s with lost := fault.losesPosition }) e s := by
  simp only [exchange, Act.leads_bind, Act.leads_ask, Watch.contract_asks, Watch.contract_answers]
  refine ⟨known, ?_⟩
  rintro sent s' ⟨-, same⟩
  cases sent with
  | error fault => simp [Act.orFail, same, known]
  | ok sent =>
    refine ⟨trivial, ?_⟩
    rintro heard s'' ⟨-, same'⟩
    simp only [Act.leads_orFail]
    simp only [custody_after, Standing.after_sent, Standing.after_listen] at same same'
    rw [same', same]
    cases x.conclude x.begin heard with
    | ok counter => simp
    | error fault => simp [known]

theorem roundTrip_custody (text : String) (expected : Nat) {e : Engine} {s : Standing} (known : Known e s) :
    (roundTrip text expected).Leads custody.contract (fun _ => Known)
      (fun fault e' s' => fault.losesPosition = true ∨ Kept e' s') e s := by
  unfold roundTrip
  simp only [Act.leads_bind, Act.leads_get]
  by_cases busy : e.inFlight = true
  · simp [busy, known.kept]
  simp only [busy, Bool.false_eq_true, ↓reduceIte, Act.leads_bind, Act.leads_ask, Watch.contract_asks,
    Watch.contract_answers]
  refine ⟨trivial, ?_⟩
  rintro events s' ⟨-, same⟩
  apply (takeStale_custody _ events e s').mono
  · rintro counter e' s'' ⟨rfl, rfl, quiet⟩
    have same : s'' = s := by simp [same, quiet]
    subst same
    simp only [Act.leads_modify, Act.leads_attempt]
    apply (exchange_custody text _ _ s'' known.2).mono
    · rintro counter e₁ s₁ ⟨rfl, rfl⟩
      simp [Known, Kept, known.2]
    · rintro fault e₁ s₁ ⟨rfl, rfl⟩
      by_cases loses : fault.losesPosition = true
      · simp [loses]
      · simp [loses, Kept]
  · rintro fault e' s'' ⟨rfl, rfl, loses⟩
    exact .inl loses

theorem submit_custody (text : String) (expected : Nat) {e : Engine} {s : Standing} (known : Known e s) :
    (submit text expected).Leads custody.contract (fun _ => Known) (fun _ => Kept) e s := by
  unfold submit
  simp only [Act.leads_bind, Act.leads_attempt]
  apply (roundTrip_custody text expected known).mono
  · exact fun _ _ _ known' => known'
  · intro fault e' s' ended
    by_cases loses : fault.losesPosition = true
    · simp [loses, Kept, Standing.Allows, Standing.Admits]
    · simpa [loses] using ended

theorem startSession_custody {e : Engine} {s : Standing} (kept : Kept e s) :
    startSession.Leads custody.contract (fun _ => Known) (fun _ => Kept) e s := by
  simp only [startSession, Act.leads_bind, Act.leads_ask, Watch.contract_asks, Watch.contract_answers]
  refine ⟨trivial, ?_⟩
  rintro greeting s' ⟨-, same⟩
  cases greeting with
  | error fault => simpa [Act.orFail, same] using kept
  | ok greeting => simp [Act.orFail, same, Known, Kept]

theorem haltSession_custody (e : Engine) (s : Standing) :
    haltSession.Leads custody.contract (fun _ => Kept) (fun _ => Kept) e s := by
  simp only [haltSession, Act.leads_bind, Act.leads_get, Act.leads_ask, Watch.contract_asks, Watch.contract_answers]
  refine ⟨trivial, ?_⟩
  rintro _ s' ⟨-, same⟩
  simp [same, Kept]

theorem executeSingle_custody (stmt : Statement) {e : Engine} {s : Standing} (known : Known e s) :
    (executeSingle stmt).Leads custody.contract (fun _ => Known) (fun _ => Kept) e s := by
  simp only [executeSingle, Act.leads_bind, Act.leads_get, Act.leads_modify]
  refine (submit_custody stmt.text 1 ?_).mono ?_ (fun _ _ _ kept => kept)
  · exact known
  · intro response e' s' known'
    cases response.error with
    | some error => exact known'.kept
    | none => exact known'

theorem executeBatch_custody (ss : List Statement) {e : Engine} {s : Standing} (known : Known e s) :
    (executeBatch ss).Leads custody.contract (fun _ => Known) (fun _ => Kept) e s := by
  simp only [executeBatch, Act.leads_bind]
  apply (submit_custody (batchText ss) ss.length known).mono ?_ (fun _ _ _ kept => kept)
  intro response e' s' known'
  by_cases rejected : response.error.isSome
  · simpa [rejected] using known'
  · simp only [rejected, Bool.false_eq_true, ↓reduceIte]
    exact known'

theorem rewindBatch_custody (before state : Nat) {e : Engine} {s : Standing} (known : Known e s) :
    (rewindBatch before state).Leads custody.contract (fun done e' s' => done = true → Known e' s') (fun _ => Kept)
      e s := by
  unfold rewindBatch
  by_cases same : state = before
  · simpa [same] using known
  simp only [same, ↓reduceIte, Act.leads_bind, Act.leads_get]
  by_cases valid : e.undo.valid
  · simp only [valid, Bool.not_true, Bool.false_eq_true, ↓reduceIte, Act.leads_bind, Act.leads_attempt]
    apply (submit_custody _ 1 known).mono
    · intro response e' s' known'
      split
      · exact fun _ => known'
      · exact fun done => absurd done Bool.false_ne_true
    · exact fun fault e' s' _ done => absurd done Bool.false_ne_true
  · simp [valid]

theorem tryUndo_custody (target : Nat) {e : Engine} {s : Standing} (kept : Kept e s) :
    (tryUndo target).Leads custody.contract (fun _ => Kept) (fun _ => Kept) e s := by
  unfold tryUndo
  simp only [Act.leads_bind, Act.leads_get]
  by_cases valid : e.undo.valid
  · by_cases busy : e.inFlight = true
    · simpa [valid, busy] using kept
    simp only [valid, Bool.not_true, Bool.false_eq_true, ↓reduceIte, busy, Act.leads_bind, Act.leads_ask,
      Watch.contract_asks, Watch.contract_answers]
    refine ⟨trivial, ?_⟩
    rintro running s' ⟨admitted, same⟩
    obtain rfl : s' = s := same
    cases running with
    | false => exact kept
    | true =>
      by_cases whole : e.undo.size ≠ e.proved
      · rw [if_neg (by simp), if_pos whole]
        exact kept
      rw [if_neg (by simp), if_neg whole]
      cases e.undo.undoTarget? e.proved (e.outline.countUpTo target) with
      | none => exact kept
      | some state =>
        simp only [Act.leads_bind, Act.leads_attempt]
        refine (submit_custody _ 1 (kept.known (admitted rfl))).mono ?_ (fun _ _ _ kept => kept)
        intro response e₁ s₁ known
        by_cases rejected : response.error.isSome
        · simpa [rejected] using known.kept
        · simp only [rejected, Bool.false_eq_true, ↓reduceIte]
          exact known.kept
  · simpa [valid] using kept

theorem custody_passage : Passage custody.contract Kept Known fun _ _ => True where
  kept known := known.kept
  adrift _ := trivial
  noted _ kept := kept
  readies := by
    intro e s kept
    simp only [ready, Act.leads_bind, Act.leads_ask, Watch.contract_asks, Watch.contract_answers, Act.leads_get,
      Act.leads_pure]
    refine ⟨trivial, ?_⟩
    rintro running s' ⟨admitted, same⟩
    obtain rfl : s' = s := same
    refine ⟨trivial, kept, ?_⟩
    intro free
    simp only [Bool.and_eq_true] at free
    exact kept.known (admitted free.1)
  verified _ _ _ := trivial
  executes _ known := executeSingle_custody _ known
  batches := by
    intro e s ss _ _ known
    refine (executeBatch_custody ss known).mono ?_ (fun _ _ _ kept => kept)
    intro result e₁ s₁ known₁
    cases result with
    | accepted => exact known₁
    | rejected state =>
      refine (rewindBatch_custody _ state known₁).mono ?_ (fun _ _ _ kept => kept)
      intro rewound e₂ s₂ known₂
      cases rewound with
      | true => exact known₂ rfl
      | false => trivial
  halts _ := haltSession_custody _ _
  starts kept := startSession_custody kept
  undoes target kept := tryUndo_custody target kept
  resets := by
    intro e s _
    simp only [reset, Act.leads_bind, Act.leads_modify]
    refine (haltSession_custody e s).mono ?_ (fun _ _ _ kept => kept)
    intro _ e₁ s₁ kept₁
    exact ⟨fun busy => absurd busy (by simp), kept₁.2⟩

theorem custody_quiet : Quiet custody.contract where
  publish _ _ := ⟨trivial, fun _ _ answered => answered.2⟩
  time _ := ⟨trivial, fun _ _ answered => answered.2⟩

theorem custody_keeps : custody.Keeps Kept where
  setDocument _ _ kept := kept
  perform i kept := by
    apply performing_leads custody_quiet i fun _ => Kept
    refine (custody_passage.act_keeps i ?_).mono (fun _ _ _ kept' => kept') (fun _ _ _ kept' => kept')
    exact kept
  shutdown := by
    rintro e s ⟨_, lost⟩
    refine ⟨trivial, ?_⟩
    rintro _ s' ⟨_, rfl⟩
    exact ⟨fun busy => absurd busy (by simp), fun _ => rfl⟩
  running kept := ⟨trivial, fun _ _ => kept⟩

end Engine

/-- No command is sent to a lost process before it is started anew, and while no call is in progress, a closed gate
means that the process is not running. -/
theorem lost_process_sent_nothing {settings : Settings} {c : Course} (reached : c.Reached settings)
    (lawful : custody.Lawful c.asked) :
    (∀ before text sent after, c.asked = before ++ ⟨.send text, sent⟩ :: after → (custody.sum before).lost = false) ∧
      (c.desk.holder = none → c.desk.engine.inFlight = true →
        ∀ running, custody.Lawful (c.asked ++ [⟨.running, running⟩]) → running = false) := by
  have starts : ∀ engine, Engine.ofSettings settings = .ok engine → engine.Kept custody.start := by
    intro engine made
    cases rules : settings.rules with
    | error fault => simp [Engine.ofSettings, rules, Except.map] at made
    | ok r =>
      simp only [Engine.ofSettings, rules, Except.map, Except.ok.injEq] at made
      simp [← made, Engine.Kept, custody]
  obtain ⟨orderly, sound⟩ := Course.reached_sound Engine.custody_keeps starts reached lawful
  refine ⟨fun before text sent after same => orderly before _ after same, ?_⟩
  intro free closed running admitted
  have kept : c.desk.engine.Kept (custody.sum c.asked) := by
    cases working : c.work with
    | none => exact (by simpa [Course.Sound, working] using sound : _ ∧ _).2
    | some work => simp [Course.Sound, working, free] at sound
  have admits := ((custody.lawful_concat c.asked ⟨.running, running⟩).mp admitted).2
  cases running with
  | false => rfl
  | true => exact absurd (kept.1 closed) (by simp [admits rfl])

/-- The answers of a process that takes a command and is never heard of again. -/
def muteReply : (q : Query) → q.Reply
  | .running => false
  | .stop | .halt _ | .publish _ => ()
  | .start => .ok { marker := some ⟨0, "check"⟩ }
  | .drain | .listen _ => []
  | .send _ => .ok ()
  | .time => .epoch

/-- A document with one statement, which is sent to the mute process. -/
def muteCourse (d : Desk) : Course :=
  let opened := (({ desk := d } : Course).call 0 (.update "a." 1 none)).play muteReply 9
  (opened.call 1 (.intent .stepForward)).play muteReply 20

/-- Whether an answer says that no process is running, if it was asked for. -/
def Asked.still : Asked → Bool
  | ⟨.running, running⟩ => !running
  | _ => true

theorem lawful_of_still {asked : List Asked} (still : asked.all Asked.still = true) : custody.Lawful asked := by
  rintro before ⟨q, r⟩ after rfl
  have quiet : Asked.still ⟨q, r⟩ = true := by
    simp only [List.all_append, List.all_cons, Bool.and_eq_true] at still
    exact still.2.1
  cases q with
  | running =>
    intro runs
    simp only [Asked.still, Bool.not_eq_true'] at quiet
    exact absurd runs (by simp [quiet])
  | _ => trivial

/-- The mute process is lost and the gate stays closed. -/
theorem mute_process_lost : ∃ c : Course, (c.Reached {} ∧ custody.Lawful c.asked) ∧
    (custody.sum c.asked).lost = true ∧ c.desk.holder = none ∧ c.desk.engine.inFlight = true ∧
      (∀ before text sent after, c.asked = before ++ ⟨.send text, sent⟩ :: after → (custody.sum before).lost = false) ∧
      ∀ running, custody.Lawful (c.asked ++ [⟨.running, running⟩]) → running = false := by
  have ends : (match Desk.ofSettings {} with
      | .ok d =>
        let c := muteCourse d
        c.asked.all Asked.still && (custody.sum c.asked).lost && c.desk.holder.isNone && c.desk.engine.inFlight
      | .error _ => false) = true := by decide +kernel
  cases opened : Desk.ofSettings {} with
  | error fault => simp [opened] at ends
  | ok d =>
    simp only [opened, Bool.and_eq_true, Option.isNone_iff_eq_none] at ends
    obtain ⟨⟨⟨still, lost⟩, free⟩, closed⟩ := ends
    have called : Relation.ReflTransGen Course.Step { desk := d } (muteCourse d) :=
      (((Relation.ReflTransGen.refl.tail (.call 0 _)).trans (Course.play_steps _ _ _)).tail (.call 1 _)).trans
        (Course.play_steps _ _ _)
    have reached : (muteCourse d).Reached {} := ⟨d, opened, called⟩
    have lawful := lawful_of_still still
    obtain ⟨known, stopped⟩ := lost_process_sent_nothing reached lawful
    exact ⟨muteCourse d, ⟨reached, lawful⟩, lost, free, closed, known, stopped free closed⟩

end Frontier
