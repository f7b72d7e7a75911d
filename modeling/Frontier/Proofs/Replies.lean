import Frontier.Proofs.AnyProver
import Frontier.Proofs.ErrorPattern
import Frontier.Proofs.Passage
import Frontier.Proofs.UndoLog

/-!
# The undo log and the prover's replies

Every answer to a command is closed by a marker with the number of the prover's state. What the engine makes of it
depends on the command and on whether the answer reports an error; a log that is in order afterwards either ends in
that state, or the answer reported an error to a single command, and then the log has not moved.
-/

namespace Frontier

/-- What a process has shown since it was started. -/
structure Shown where
  /-- The number that closed the last answer to a command, or that the session began with. -/
  last : Nat
  /-- The same, where answers that report an error do not count. -/
  fine : Nat
  /-- The last answer reports an error, and was to a command that one marker answers. -/
  spurned : Bool := false
  deriving DecidableEq, Repr

namespace Shown

/-- What one more answer shows, to a command that so many markers answer. -/
def heard (p : Shown) (expected : Nat) (r : Response) : Shown :=
  match r.last? with
  | none => p
  | some m => if r.error.isSome then ⟨m.id, p.fine, expected == 1⟩ else ⟨m.id, m.id, false⟩

/-- The state is that of the last answer, unless a single command was answered with an error. -/
def Held (p : Shown) (current : Nat) : Prop := current = p.fine ∧ (p.fine = p.last ∨ p.spurned = true)

/-- A batch was answered with an error, in a state. -/
def Torn (state : Nat) (p : Shown) (current : Nat) : Prop := current = p.fine ∧ p.last = state

/-- Nothing is known. -/
def Any (_ : Shown) (_ : Nat) : Prop := True

end Shown

/-- What the process that is attached has shown, where sessions begin with a number unless they show another one. A
process that was told to stop is attached no more. -/
def shown (initial : Nat) : Watch (Option Shown) where
  start := none
  after s q r :=
    match q, r with
    | .stop, _ => none
    | .halt _, _ => none
    | .start, .ok greeting =>
      let id := (greeting.marker.map (·.id)).getD initial
      some { last := id, fine := id }
    | .listen x, heard =>
      match x.conclude x.begin heard with
      | .ok counter => s.map (·.heard x.expected (.ofCounter x.rules counter))
      | .error _ => s
    | _, _ => s
  Admits _ _ _ := True
  Allows _ _ := True

theorem shown_attends (initial : Nat) : (shown initial).Attends fun _ => True where
  allows _ _ := trivial
  started _ := trivial
  sent _ := trivial
  running _ _ := rfl
  publish _ _ _ := rfl
  time _ _ := rfl
  drain _ _ := rfl
  unheard concluded := by simp [shown, concluded]

namespace Engine

/-- While it is in order, the undo log holds the statements that count as verified. -/
structure Tallied (e : Engine) : Prop where
  size : e.undo.valid = true → e.undo.size = e.proved
  matched : e.undo.Matched

/-- The log holds the verified statements, and its state and what the process has shown are in a relation. -/
structure Shows (P : Shown → Nat → Prop) (initial : Nat) (e : Engine) (s : Option Shown) : Prop extends Tallied e where
  rules : e.rules.initialId = initial
  state : ∀ p, s = some p → e.undo.valid = true → P p e.undo.current

/-- The log says where the process is, as far as it has taken note. -/
abbrev Faithful : Nat → Engine → Option Shown → Prop := Shows Shown.Held

/-- The log holds the verified statements, wherever the process is. -/
abbrev Loose : Nat → Engine → Option Shown → Prop := Shows Shown.Any

variable {P Q : Shown → Nat → Prop} {initial : Nat} {e e' : Engine} {s s' : Option Shown}

theorem Shows.mono (shows : Shows P initial e s) (weaker : ∀ p, P p e.undo.current → Q p e.undo.current) :
    Shows Q initial e s :=
  { shows with state := fun p same valid => weaker p (shows.state p same valid) }

theorem Shows.any (shows : Shows P initial e s) : Loose initial e s := shows.mono fun _ _ => trivial

/-- A process that is not attached shows nothing. -/
theorem Shows.gone (shows : Shows P initial e s) : Shows Q initial e none :=
  { shows with state := fun p same => by cases same }

/-- A process that was just started has shown the number that the log begins with. -/
theorem Shows.opened (shows : Shows P initial e s) (greeting : Greeting) :
    Faithful initial (e.opened greeting) ((shown initial).after s .start (.ok greeting)) where
  size _ := rfl
  matched := UndoLog.matched_of_valid rfl
  rules := shows.rules
  state := by
    rintro p ⟨⟩ -
    refine ⟨?_, .inl rfl⟩
    show (greeting.marker.map (·.id)).getD e.rules.initialId = _
    rw [shows.rules]

/-- A log that has taken a record is in order if it says so. -/
theorem Shows.records (shows : Shows P initial e s) {undo : UndoLog} {size current : Nat}
    (records : e.undo.Records undo size current) {offset : Nat}
    (state : ∀ p, s' = some p → e.undo.valid = true → Q p current) :
    Shows Q initial { e with undo, proved := size, offset } s' where
  size valid := (records.order valid).2.1
  matched := records.matched shows.matched
  rules := shows.rules
  state p same valid := by
    obtain ⟨before, -, current⟩ := records.order valid
    rw [current]
    exact state p same before

theorem Shows.announced (shows : Shows P initial e s) (index : Nat) :
    Shows P initial { e with undo := e.undo.announce index } s where
  size valid := by
    rw [UndoLog.announce_valid] at valid
    exact (UndoLog.announce_size _ _).trans (shows.size valid)
  matched := shows.matched.announce index
  rules := shows.rules
  state p same valid := by
    rw [UndoLog.announce_valid] at valid
    rw [UndoLog.announce_current]
    exact shows.state p same valid

/-- An answer to a command that expects one is closed by a marker. -/
theorem Answered.closes {text : String} {expected : Nat} {r : Response}
    (answered : Answered (shown initial) text expected e s r e' s') (expects : 1 ≤ expected) :
    s' = s.map (·.heard expected r) ∧ ∃ m, r.last? = some m := by
  obtain ⟨x, heard, counter, -, rfl, concluded, rfl, rfl⟩ := answered.heard
  refine ⟨by simp [shown, concluded], ?_⟩
  have some := Exchange.conclude_ne_nil expects concluded
  rw [Response.last?, Response.ofCounter, List.getLast?_eq_some_getLast some]
  exact ⟨_, rfl⟩

/-- An answer without an error puts the process in the state that closes it. -/
theorem Answered.fine {text : String} {expected : Nat} {r : Response}
    (answered : Answered (shown initial) text expected e s r e' s') (expects : 1 ≤ expected) (fine : r.error = none) :
    ∃ m, r.last? = some m ∧ ∀ p, s' = some p → p.Held m.id := by
  obtain ⟨heard, m, last⟩ := answered.closes expects
  refine ⟨m, last, ?_⟩
  intro p same
  rw [heard, Option.map_eq_some_iff] at same
  obtain ⟨p', -, rfl⟩ := same
  simp [Shown.heard, Shown.Held, last, fine]

/-- An answer with an error leaves the log where the last one without an error was. -/
theorem Answered.spoiled {text : String} {expected : Nat} {r : Response}
    (answered : Answered (shown initial) text expected e s r e' s') (expects : 1 ≤ expected)
    (spoiled : r.error.isSome = true) (shows : Faithful initial e s) :
    ∃ m, r.last? = some m ∧ ∀ p, s' = some p → e.undo.valid = true →
      e.undo.current = p.fine ∧ p.last = m.id ∧ p.spurned = (expected == 1) := by
  obtain ⟨heard, m, last⟩ := answered.closes expects
  refine ⟨m, last, ?_⟩
  intro p same valid
  rw [heard, Option.map_eq_some_iff] at same
  obtain ⟨p', was, rfl⟩ := same
  have held := shows.state p' was valid
  simpa [Shown.heard, last, spoiled] using held.1

theorem Answered.shows {text : String} {expected : Nat} {r : Response}
    (answered : Answered (shown initial) text expected e s r e' s') (shows : Shows P initial e s)
    (state : ∀ p, s' = some p → e.undo.valid = true → Q p e.undo.current) :
    Shows Q initial e' s' where
  size valid := by
    rw [answered.undo] at valid ⊢
    rw [answered.region.proved]
    exact shows.size valid
  matched := by rw [answered.undo]; exact shows.matched
  rules := by rw [answered.region.rules]; exact shows.rules
  state p same valid := by
    rw [answered.undo] at valid ⊢
    exact state p same valid

/-- A command that fails leaves the log in order only if the process is still where it was. -/
theorem Failed.shows {own : Fault → Prop} {text : String} {fault : Fault}
    (failed : Failed (shown initial) own text e s fault e' s') (shows : Shows P initial e s) :
    Shows P initial e' s' := by
  rcases failed.state with ⟨undo, tried⟩ | ⟨undo, _, -, rfl⟩
  · obtain rfl : s' = s := by
      rcases tried with same | ⟨sent, same⟩
      · exact same
      · exact same
    refine ⟨⟨?_, ?_⟩, ?_, ?_⟩
    · rw [undo, failed.region.proved]
      exact shows.size
    · rw [undo]
      exact shows.matched
    · rw [failed.region.rules]
      exact shows.rules
    · rw [undo]
      exact shows.state
  · refine ⟨⟨?_, ?_⟩, ?_, fun p same => by cases same⟩
    · intro valid
      simp [undo, UndoLog.invalidate_valid] at valid
    · rw [undo]
      exact shows.matched.invalidate rfl
    · rw [failed.region.rules]
      exact shows.rules

/-! ## Steps -/

theorem executeSingle_shows (stmt : Statement) (shows : Faithful initial e s) :
    (executeSingle stmt).Leads (shown initial).contract (fun _ => Faithful initial) (fun _ => Faithful initial)
      e s := by
  have announced := shows.announced e.proved
  simp only [executeSingle, Act.leads_bind, Act.leads_get, Act.leads_modify]
  apply (submit_attended (shown_attends initial) stmt.text 1 _ s).mono
  · intro response e₁ s₁ answered
    cases error : response.error with
    | some error' =>
      -- The error is thrown before the closing marker is looked at: the log stays where it was.
      obtain ⟨_, -, spoils⟩ := answered.spoiled (Nat.le_refl 1) (by rw [error]; rfl) announced
      refine answered.shows announced ?_
      intro p same valid
      obtain ⟨fine, -, spurned⟩ := spoils p same valid
      exact ⟨fine, .inr spurned⟩
    | none =>
      obtain ⟨mark, last, held⟩ := answered.fine (Nat.le_refl 1) error
      have shows₁ : Loose initial e₁ s₁ := answered.shows announced fun _ _ _ => trivial
      simp only [last, Act.leads_modify]
      have records := UndoLog.acknowledge_records e₁.undo e.proved mark.id
      have proved : e₁.proved + 1 = e.proved + 1 := congrArg (· + 1) answered.region.proved
      rw [← proved] at records
      exact shows₁.records records fun p same _ => held p same
  · intro fault e₁ s₁ failed
    exact failed.shows announced

/-- What a batch leaves the log and the process in. -/
def BatchShows (initial before : Nat) : BatchResult → Engine → Option Shown → Prop
  | .accepted, e, s => Faithful initial e s
  | .rejected state, e, s => Shows (Shown.Torn state) initial e s ∧ e.undo.current = before

theorem getLast?_ids {r : Response} {m : Marker} (last : r.last? = some m) :
    (r.markers.map (·.id)).getLast? = some m.id := by
  rw [Response.last?, Option.map_eq_some_iff] at last
  obtain ⟨segment, segments, rfl⟩ := last
  simp [Response.markers, List.getLast?_map, segments]

theorem executeBatch_shows {ss : List Statement} (some : ss ≠ []) (shows : Faithful initial e s) :
    (executeBatch ss).Leads (shown initial).contract (BatchShows initial e.undo.current)
      (fun _ => Faithful initial) e s := by
  have expects : 1 ≤ ss.length := List.length_pos_iff.mpr some
  simp only [executeBatch, Act.leads_bind]
  apply (submit_attended (shown_attends initial) _ ss.length e s).mono
  · intro response e₁ s₁ answered
    by_cases rejected : response.error.isSome = true
    · obtain ⟨mark, last, spoils⟩ := answered.spoiled expects rejected shows
      simp only [rejected, ↓reduceIte, Act.leads_bind, Act.leads_get, Act.leads_pure, last, Option.map_some,
        Option.getD_some]
      refine ⟨answered.shows shows ?_, by rw [answered.undo]⟩
      intro p same valid
      obtain ⟨fine, state, -⟩ := spoils p same valid
      exact ⟨fine, state⟩
    · obtain ⟨mark, last, held⟩ := answered.fine expects (by simpa using rejected)
      have shows₁ : Loose initial e₁ s₁ := answered.shows shows fun _ _ _ => trivial
      simp only [rejected, Bool.false_eq_true, ↓reduceIte, Act.leads_bind, Act.leads_modify, Act.leads_pure]
      refine shows₁.records (UndoLog.acknowledgeBatch_records _ _ _ _) ?_
      intro p same _
      rw [getLast?_ids last]
      exact held p same
  · intro fault e₁ s₁ failed
    exact failed.shows shows

/-- A rewind that succeeds has put the process back; one that does not is no worse than a lost process. -/
theorem rewindBatch_shows {state : Nat} (shows : Shows (Shown.Torn state) initial e s) :
    (rewindBatch e.undo.current state).Leads (shown initial).contract
      (fun rewound e' s' => if rewound then Faithful initial e' s' else Loose initial e' s')
      (fun _ _ _ => False) e s := by
  unfold rewindBatch
  by_cases same : state = e.undo.current
  · simp only [same, ↓reduceIte, Act.leads_pure]
    refine shows.mono ?_
    rintro p ⟨fine, last⟩
    exact ⟨fine, .inl (by rw [last, same, fine])⟩
  simp only [same, ↓reduceIte, Act.leads_bind, Act.leads_get]
  by_cases valid : e.undo.valid = true
  · simp only [valid, Bool.not_true, Bool.false_eq_true, ↓reduceIte, Act.leads_bind, Act.leads_attempt]
    apply (submit_attended (shown_attends initial) _ 1 e s).mono
    · intro response e₁ s₁ answered
      have shows₁ : Loose initial e₁ s₁ := answered.shows shows fun _ _ _ => trivial
      split
      · next done =>
        simp only [Bool.and_eq_true, Option.isNone_iff_eq_none] at done
        obtain ⟨fine, restored⟩ := done
        obtain ⟨mark, last, held⟩ := answered.fine (Nat.le_refl 1) fine
        simp only [last, Option.any_some, beq_iff_eq] at restored
        have records := UndoLog.undone_records e₁.undo e.proved e.undo.current
        rw [← answered.region.proved] at records
        refine shows₁.records records ?_
        intro p same _
        rw [← restored]
        exact held p same
      · exact shows₁
    · intro fault e₁ s₁ failed
      exact (failed.shows shows).any
  · simpa [valid] using shows.any

theorem tryUndo_shows (target : Nat) (shows : Faithful initial e s) :
    (tryUndo target).Leads (shown initial).contract (fun _ => Faithful initial) (fun _ _ _ => False) e s := by
  apply tryUndo_attended (shown_attends initial)
  · exact shows
  · intro valid differs
    exact absurd (shows.size valid) differs
  · exact fun state fault e' s' failed => failed.shows shows
  · intro state r e' s' answered rejected
    obtain ⟨_, -, spoils⟩ := answered.spoiled (Nat.le_refl 1) rejected shows
    refine answered.shows shows ?_
    intro p same valid
    obtain ⟨fine, -, spurned⟩ := spoils p same valid
    exact ⟨fine, .inr spurned⟩
  · intro state r e' s' _ answered fine
    obtain ⟨mark, last, held⟩ := answered.fine (Nat.le_refl 1) fine
    have shows' : Loose initial e' s' := answered.shows shows fun _ _ _ => trivial
    rw [last]
    exact shows'.records (UndoLog.undone_records _ _ _) fun p same _ => held p same

theorem shows_passage (initial : Nat) :
    Passage (shown initial).contract (Faithful initial) (Faithful initial) (Loose initial) where
  kept shows := shows
  adrift shows := shows.any
  noted _ shows := { shows with }
  readies := by
    intro e s shows
    simp only [ready, Act.leads_bind, Act.leads_ask, Watch.contract_asks, Watch.contract_answers, Act.leads_get,
      Act.leads_pure]
    refine ⟨trivial, ?_⟩
    rintro running s' ⟨-, rfl⟩
    exact ⟨trivial, shows, fun _ => shows⟩
  verified _ _ _ := trivial
  executes _ shows := executeSingle_shows _ shows
  batches := by
    intro e s ss some _ shows
    refine (executeBatch_shows some shows).mono ?_ (fun _ _ _ shows₁ => shows₁)
    intro result e₁ s₁ batch
    cases result with
    | accepted => exact batch
    | rejected state =>
      obtain ⟨torn, current⟩ := batch
      rw [← current]
      exact (rewindBatch_shows torn).mono (fun _ _ _ left => left) (fun _ _ _ absurd => absurd.elim)
  halts := by
    intro e s loose
    refine (haltSession_attended (shown_attends initial) e s).mono ?_ (fun _ _ _ absurd => absurd.elim)
    rintro _ _ _ ⟨rfl, rfl⟩
    exact loose.gone
  starts := by
    intro e s shows
    apply (startSession_attended (shown_attends initial) e s).mono
    · rintro _ _ _ ⟨greeting, rfl, rfl⟩
      exact shows.opened greeting
    · rintro fault _ _ ⟨rfl, -, rfl⟩
      exact shows
  undoes target shows :=
    (tryUndo_shows target shows).mono (fun _ _ _ shows₁ => shows₁) (fun _ _ _ absurd => absurd.elim)
  resets := by
    intro e s shows
    simp only [reset, Act.leads_bind, Act.leads_modify]
    refine (haltSession_attended (shown_attends initial) e s).mono ?_ (fun _ _ _ absurd => absurd.elim)
    rintro _ _ _ ⟨rfl, rfl⟩
    exact ⟨⟨fun _ => rfl, UndoLog.matched_of_valid rfl⟩, shows.rules, fun p same => by cases same⟩

/-! ## Operations -/

theorem faithful_keeps (initial : Nat) : (shown initial).Keeps (Faithful initial) where
  setDocument _ _ shows := { shows with }
  perform := by
    intro e s i shows
    apply performing_leads (attended_quiet (shown_attends initial)) i fun _ => Faithful initial
    have begun : Faithful initial (e.begun i) s := { shows with }
    refine ((shows_passage initial).act_keeps i begun).mono ?_ ?_
    · intro _ e' s' shows'
      exact { shows' with }
    · intro fault e' s' shows'
      exact { shows' with }
  shutdown := by
    intro e s shows
    refine ⟨trivial, ?_⟩
    rintro _ s' ⟨-, rfl⟩
    exact ⟨⟨shows.size, shows.matched⟩, shows.rules, fun p same => by cases same⟩
  running shows := ⟨trivial, fun _ _ => shows⟩

theorem opens_faithful {settings : Settings} {rules : Rules} (read : settings.rules = .ok rules) :
    ∀ engine, Engine.ofSettings settings = .ok engine → Faithful rules.initialId engine none := by
  intro engine made
  obtain ⟨rules', read', rfl⟩ := ofSettings_ok made
  obtain rfl : rules = rules' := Except.ok.inj (read.symm.trans read')
  exact ⟨⟨fun _ => rfl, UndoLog.matched_of_valid rfl⟩, rfl, fun p same => by cases same⟩

end Engine

/-- Every settled engine is faithful to what its process has shown. -/
theorem Course.Reached.faithful {settings : Settings} {rules : Rules} (read : settings.rules = .ok rules) {c : Course}
    (reached : c.Reached settings) {e : Engine} (settled : c.Settled e) :
    e.Faithful rules.initialId ((shown rules.initialId).sum c.asked) := by
  have lawful : (shown rules.initialId).Lawful c.asked := fun _ _ _ _ => trivial
  exact (Course.reached_sound (Engine.faithful_keeps _) (Engine.opens_faithful read) reached lawful).2.settled settled

/-- An undo log that is in order ends in the state that closed the last answer without an error; the last answer is
this one, unless it reported an error to a single command. -/
theorem log_follows_answers {settings : Settings} {rules : Rules} (read : settings.rules = .ok rules) {c : Course}
    (reached : c.Reached settings) {e : Engine} (settled : c.Settled e) (valid : e.undo.valid = true) {p : Shown}
    (attached : (shown rules.initialId).sum c.asked = some p) :
    e.undo.current = p.fine ∧ (p.fine = p.last ∨ p.spurned = true) :=
  (reached.faithful read settled).state p attached valid

/-- The answers of a process that says the same to every command, and runs or not. -/
def sayingReply (said : String) (runs : Bool) : (q : Query) → q.Reply
  | .running => runs
  | .stop | .halt _ | .publish _ => ()
  | .start => .ok { marker := some ⟨0, "check"⟩ }
  | .drain => []
  | .listen _ => [(0, some (.output said))]
  | .send _ => .ok ()
  | .time => .epoch

/-- The first statement of a document is sent to a new process. -/
def sayingCourse (said document : String) (d : Desk) : Course :=
  let opened := (({ desk := d } : Course).call 0 (.update document 1 none)).play (sayingReply said false) 9
  ((opened.call 1 (.intent .stepForward)).play (sayingReply said false) 1).play (sayingReply said true) 20

theorem sayingCourse_steps {said document : String} (texts : String → Prop) (meant : texts document) (d : Desk) :
    Relation.ReflTransGen (Course.StepOn texts) { desk := d } (sayingCourse said document d) :=
  ((((Relation.ReflTransGen.refl.tail (.call 0 (.update document 1 none) meant)).trans
    (Course.play_stepsOn _ _ _ _)).tail (.call 1 (.intent .stepForward) trivial)).trans
      (Course.play_stepsOn _ _ _ _)).trans (Course.play_stepsOn _ _ _ _)

/-- Two statements are sent to a new process, which accepts them. -/
def bothCourse : Course :=
  let reply := sayingReply "[1|check]>\n[2|check]>\n" false
  let opened := (({ desk := .standard } : Course).call 0 (.update "a. b." 1 none)).play reply 9
  (opened.call 1 (.intent (.goToCursor 5))).play reply 20

theorem bothCourse_reached : bothCourse.Reached {} :=
  ⟨.standard, Desk.ofSettings_default, (((Relation.ReflTransGen.refl.tail (.call 0 _)).trans
    (Course.play_steps _ _ _)).tail (.call 1 _)).trans (Course.play_steps _ _ _)⟩

/-- A process that moves on as it rejects a statement. -/
def movingCourse : Course := sayingCourse "[error-1-0-1-4]cannot prove: a.\n[1|check]>\n" "a." .standard

/-- The process has closed its last answer in another state than the one that the log holds. -/
theorem spurned_answer_not_followed : ∃ (c : Course) (p : Shown), (c.Reached {} ∧ c.Settled c.desk.engine) ∧
    c.desk.engine.undo.valid = true ∧ (shown Rules.standard.initialId).sum c.asked = some p ∧ p.last = 1 ∧ p.fine = 0 ∧
      c.desk.engine.undo.current = p.fine ∧ (p.fine = p.last ∨ p.spurned = true) := by
  have reachedOn : movingCourse.ReachedOn {} fun _ => True :=
    ⟨.standard, Desk.ofSettings_default, sayingCourse_steps _ trivial _⟩
  have settled : movingCourse.Settled movingCourse.desk.engine := .free (by decide +kernel)
  have valid : movingCourse.desk.engine.undo.valid = true := by decide +kernel
  have attached : (shown Rules.standard.initialId).sum movingCourse.asked =
      some { last := 1, fine := 0, spurned := true } := by decide +kernel
  exact ⟨movingCourse, _, ⟨reachedOn.reached, settled⟩, valid, attached, rfl, rfl,
    log_follows_answers Settings.rules_default reachedOn.reached settled valid attached⟩

end Frontier
