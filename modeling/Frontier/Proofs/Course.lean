import Frontier.Desk
import Frontier.Proofs.Contract
import Mathlib.Logic.Relation

/-!
# The course of a desk

A course is a desk at work together with all questions that its engine has asked and the answers that came. Hosts
may call at any moment, also while the dialogue of a phase waits for an answer, and any answer may come. What holds
whenever no call is in progress, and which questions are never asked, is derived from what single operations lead
to.
-/

namespace Frontier
variable {σ : Type}

/-- A question with its answer. -/
structure Asked where
  query : Query
  reply : query.Reply

/-- A call brings no text but those that are meant. -/
def Call.Brings (texts : String → Prop) : Call → Prop
  | .update text _ _ => texts text
  | _ => True

/-- A desk at work. -/
structure Course where
  desk : Desk
  /-- What is left of the dialogue of the present phase. -/
  work : Option (Dialogue Finding) := none
  /-- The questions asked so far, in order. -/
  asked : List Asked := []
  /-- The answers given to hosts so far. -/
  answers : List (Ticket × Answer) := []

namespace Course

/-- A host calls. The phase that is in progress goes on. -/
def call (c : Course) (ticket : Ticket) (x : Call) : Course :=
  let m := c.desk.call ticket x
  { c with desk := m.desk, work := m.work.or c.work, answers := c.answers ++ m.answers }

/-- An answer comes. -/
def hear (c : Course) (q : Query) (r : q.Reply) (rest : Option (Dialogue Finding)) : Course :=
  { c with work := rest, asked := c.asked ++ [⟨q, r⟩] }

/-- The dialogue of a phase has ended, and the next phase begins. -/
def proceed (c : Course) (f : Finding) : Course :=
  let m := c.desk.proceed f
  { c with desk := m.desk, work := m.work, answers := c.answers ++ m.answers }

/-- What may happen next. -/
inductive Step (c : Course) : Course → Prop
  | call (ticket : Ticket) (x : Call) : Step c (c.call ticket x)
  | hear (q : Query) (next : q.Reply → Dialogue Finding) (r : q.Reply) (waits : c.work = some (.ask q next)) :
    Step c (c.hear q r (some (next r)))
  | proceed (f : Finding) (ended : c.work = some (.done f)) : Step c (c.proceed f)
  /-- A host looks at the status while the engine is free. -/
  | look (running : Bool) (free : c.desk.holder = none) : Step c (c.hear .running running c.work)

/-- What may happen next while hosts bring no texts but those that are meant. -/
inductive StepOn (texts : String → Prop) (c : Course) : Course → Prop
  | call (ticket : Ticket) (x : Call) (brings : x.Brings texts) : StepOn texts c (c.call ticket x)
  | hear (q : Query) (next : q.Reply → Dialogue Finding) (r : q.Reply) (waits : c.work = some (.ask q next)) :
    StepOn texts c (c.hear q r (some (next r)))
  | proceed (f : Finding) (ended : c.work = some (.done f)) : StepOn texts c (c.proceed f)
  | look (running : Bool) (free : c.desk.holder = none) : StepOn texts c (c.hear .running running c.work)

theorem StepOn.step {texts : String → Prop} {c c' : Course} (step : StepOn texts c c') : Step c c' := by
  cases step with
  | call ticket x => exact .call ticket x
  | hear q next r waits => exact .hear q next r waits
  | proceed f ended => exact .proceed f ended
  | look running free => exact .look running free

theorem Step.on {c c' : Course} (step : Step c c') : StepOn (fun _ => True) c c' := by
  cases step with
  | call ticket x => exact .call ticket x (by cases x <;> trivial)
  | hear q next r waits => exact .hear q next r waits
  | proceed f ended => exact .proceed f ended
  | look running free => exact .look running free

/-- Lets the dialogues go on, as each question is answered alike, for so many steps at most. -/
def play (reply : (q : Query) → q.Reply) : Nat → Course → Course
  | 0, c => c
  | n + 1, c =>
    match c.work with
    | none => c
    | some (.ask q next) => play reply n (c.hear q (reply q) (some (next (reply q))))
    | some (.done f) => play reply n (c.proceed f)

theorem play_stepsOn (texts : String → Prop) (reply : (q : Query) → q.Reply) (n : Nat) (c : Course) :
    Relation.ReflTransGen (StepOn texts) c (c.play reply n) := by
  fun_induction play reply n c with
  | case1 | case2 => exact .refl
  | case3 c n q next waits ih => exact .head (.hear q next (reply q) waits) ih
  | case4 c n f ended ih => exact .head (.proceed f ended) ih

theorem play_steps (reply : (q : Query) → q.Reply) (n : Nat) (c : Course) :
    Relation.ReflTransGen Step c (c.play reply n) :=
  (play_stepsOn (fun _ => True) reply n c).lift id fun _ _ => StepOn.step

/-- Everything that may come of a new desk. -/
def Reached (s : Settings) (c : Course) : Prop :=
  ∃ desk, Desk.ofSettings s = .ok desk ∧ Relation.ReflTransGen Step { desk } c

theorem Reached.step {s : Settings} {c c' : Course} (reached : c.Reached s) (step : Step c c') : c'.Reached s := by
  obtain ⟨desk, opened, path⟩ := reached
  exact ⟨desk, opened, path.tail step⟩

/-- Everything that may come of a new desk while hosts bring no texts but those that are meant. -/
def ReachedOn (s : Settings) (texts : String → Prop) (c : Course) : Prop :=
  ∃ desk, Desk.ofSettings s = .ok desk ∧ Relation.ReflTransGen (StepOn texts) { desk } c

theorem Reached.on {s : Settings} {c : Course} (reached : c.Reached s) : c.ReachedOn s fun _ => True := by
  obtain ⟨desk, opened, path⟩ := reached
  exact ⟨desk, opened, path.lift id fun _ _ => Step.on⟩

theorem ReachedOn.reached {s : Settings} {texts : String → Prop} {c : Course} (reached : c.ReachedOn s texts) :
    c.Reached s := by
  obtain ⟨desk, opened, path⟩ := reached
  exact ⟨desk, opened, path.lift id fun _ _ => StepOn.step⟩

/-- The engine while no operation is in progress: that of a free desk, or one that a phase has just ended with. -/
inductive Settled (c : Course) : Engine → Prop
  | free (free : c.desk.holder = none) : Settled c c.desk.engine
  | performed (o : Outcome) (e : Engine) (ended : c.work = some (.done (.performed o e))) : Settled c e
  | stopped (e : Engine) (ended : c.work = some (.done (.stopped e))) : Settled c e

end Course

/-- A way to sum up what was asked and answered, with the answers that may come and the questions that may be
asked then. -/
structure Watch (σ : Type) where
  start : σ
  after : σ → (q : Query) → q.Reply → σ
  Admits : σ → (q : Query) → q.Reply → Prop
  Allows : σ → Query → Prop

namespace Watch

/-- The sum of what was asked and answered. -/
def sum (W : Watch σ) (asked : List Asked) : σ := asked.foldl (fun s a => W.after s a.query a.reply) W.start

/-- Every answer might come. -/
def Lawful (W : Watch σ) (asked : List Asked) : Prop :=
  ∀ before a after, asked = before ++ a :: after → W.Admits (W.sum before) a.query a.reply

/-- Every question might be asked. -/
def Orderly (W : Watch σ) (asked : List Asked) : Prop :=
  ∀ before a after, asked = before ++ a :: after → W.Allows (W.sum before) a.query

/-- One step at a time. -/
def contract (W : Watch σ) : Contract σ where
  asks := W.Allows
  answers s q r s' := W.Admits s q r ∧ s' = W.after s q r

@[simp] theorem contract_asks (W : Watch σ) (s : σ) (q : Query) : W.contract.asks s q ↔ W.Allows s q := Iff.rfl

@[simp] theorem contract_answers (W : Watch σ) (s s' : σ) (q : Query) (r : q.Reply) :
    W.contract.answers s q r s' ↔ W.Admits s q r ∧ s' = W.after s q r := Iff.rfl

theorem sum_concat (W : Watch σ) (asked : List Asked) (a : Asked) :
    W.sum (asked ++ [a]) = W.after (W.sum asked) a.query a.reply := by
  simp [sum]

/-- What holds of every entry after those before it, entry by entry. -/
theorem each_concat {α : Type} {P : List α → α → Prop} {xs : List α} {x : α} :
    (∀ before a after, xs ++ [x] = before ++ a :: after → P before a) ↔
      (∀ before a after, xs = before ++ a :: after → P before a) ∧ P xs x := by
  constructor
  · intro each
    exact ⟨fun before a after same => each before a (after ++ [x]) (by simp [same]), each xs x [] rfl⟩
  · rintro ⟨each, last⟩ before a after same
    rcases List.eq_nil_or_concat after with rfl | ⟨more, y, rfl⟩
    · obtain ⟨rfl, heads⟩ := List.append_inj' same rfl
      obtain rfl : x = a := by simpa using heads
      exact last
    · have same : xs ++ [x] = (before ++ a :: more) ++ [y] := by simpa using same
      exact each before a more (List.append_inj' same rfl).1

theorem lawful_concat (W : Watch σ) (asked : List Asked) (a : Asked) :
    W.Lawful (asked ++ [a]) ↔ W.Lawful asked ∧ W.Admits (W.sum asked) a.query a.reply :=
  each_concat

theorem orderly_concat (W : Watch σ) (asked : List Asked) (a : Asked) :
    W.Orderly (asked ++ [a]) ↔ W.Orderly asked ∧ W.Allows (W.sum asked) a.query :=
  each_concat

/-- Everything that a desk does with its engine keeps a condition on the engine. -/
structure Keeps (W : Watch σ) (I : Engine → σ → Prop) : Prop where
  setDocument : ∀ {e s} (document version), I e s → I (e.setDocument document version) s
  perform : ∀ {e s} (i), I e s → (e.perform i).Leads W.contract (fun p s => I p.2 s) s
  shutdown : ∀ {e s}, I e s → e.shutdown.Leads W.contract I s
  running : ∀ {e s}, I e s →
    W.Allows s .running ∧ ∀ running, W.Admits s .running running → I e (W.after s .running running)

/-- Everything that a desk does with its engine keeps a condition on the engine, as long as no texts are taken but
those that are meant. -/
structure KeepsOn (W : Watch σ) (texts : String → Prop) (I : Engine → σ → Prop) : Prop where
  setDocument : ∀ {e s} (document version), texts document → I e s → I (e.setDocument document version) s
  perform : ∀ {e s} (i), I e s → (e.perform i).Leads W.contract (fun p s => I p.2 s) s
  shutdown : ∀ {e s}, I e s → e.shutdown.Leads W.contract I s
  running : ∀ {e s}, I e s →
    W.Allows s .running ∧ ∀ running, W.Admits s .running running → I e (W.after s .running running)

theorem Keeps.on {W : Watch σ} {I : Engine → σ → Prop} (keeps : W.Keeps I) : W.KeepsOn (fun _ => True) I where
  setDocument document version _ := keeps.setDocument document version
  perform := keeps.perform
  shutdown := keeps.shutdown
  running := keeps.running

end Watch

/-- A phase in which an operation is carried out. -/
def Phase.operates : Phase → Bool
  | .stopping | .recording _ => false
  | _ => true

/-- The phase that retracts an edit that came while a phase carried out an operation. -/
def Phase.again (o : Outcome) : Phase → Phase
  | .acting => .closing o
  | .closing first => .closing { first with offset := o.offset }
  | phase => phase

/-- The answer that is ready when an operation is the last of its call. -/
def Phase.answer (o : Outcome) : Phase → Answer
  | .acting => .outcome o
  | .closing first => .outcome { first with offset := o.offset }
  | _ => .updated (some o)

theorem Phase.again_operates (o : Outcome) (phase : Phase) : (phase.again o).operates = phase.operates := by
  cases phase <;> rfl

/-- An answer shows where the last operation left the region. -/
theorem Phase.answer_offset {o o' : Outcome} {phase : Phase} (answer : phase.answer o = .outcome o') :
    o'.offset = o.offset := by
  cases phase with
  | acting =>
    cases answer
    rfl
  | closing first =>
    cases answer
    rfl
  | _ => cases answer

namespace Desk
variable {texts : String → Prop} {d : Desk}

theorem ofSettings_ok {settings : Settings} (opened : Desk.ofSettings settings = .ok d) :
    ∃ e, Engine.ofSettings settings = .ok e ∧
      d = { engine := e, noted := ⟨e.activity, e.offset, e.proved, e.undo.valid, false⟩ } := by
  cases made : Engine.ofSettings settings with
  | error fault => simp [Desk.ofSettings, made, Except.map] at opened
  | ok e =>
    simp only [Desk.ofSettings, made, Except.map, Except.ok.injEq] at opened
    exact ⟨e, rfl, opened.symm⟩

/-- The inbox holds no text but those that are meant. -/
def Pends (texts : String → Prop) (d : Desk) : Prop :=
  ∀ document version, d.inbox.document = some (document, version) → texts document

theorem pends_add {text : String} {version : Int} {edit : Option Nat} (brings : texts text) :
    ({ d with inbox := d.inbox.add text version edit } : Desk).Pends texts := by
  rintro _ _ ⟨⟩
  exact brings

theorem Pends.takeDocument (pends : d.Pends texts) : d.takeDocument.Pends texts := by
  unfold Desk.takeDocument
  split
  · intro document version pending
    cases pending
  · exact pends

/-- Draining an inbox leaves nothing new in it. -/
theorem Pends.drain (pends : d.Pends texts) {ticket : Ticket} {phase : Phase} {otherwise : Desk → Move}
    (next : ∀ d : Desk, d.Pends texts → (otherwise d).desk.Pends texts) :
    (d.drain ticket phase otherwise).desk.Pends texts := by
  unfold Desk.drain
  split
  · exact next d pends
  · have taken := Pends.takeDocument (d := { d with inbox.edit := none }) pends
    dsimp only
    split
    · exact taken
    · exact next _ taken

theorem Pends.release (pends : d.Pends texts) (answers : List (Ticket × Answer)) (waiting : List (Ticket × Bool)) :
    (d.release answers waiting).desk.Pends texts := by
  fun_induction Desk.release d answers waiting with
  | case1 => exact pends
  | case2 answers ticket rest ih => exact ih
  | case3 answers ticket rest => exact pends

theorem Pends.call (pends : d.Pends texts) (ticket : Ticket) {x : Call} (brings : x.Brings texts) :
    (d.call ticket x).desk.Pends texts := by
  cases x with
  | update document version edit =>
    have added : ({ d with inbox := d.inbox.add document version edit } : Desk).Pends texts := pends_add brings
    simp only [Desk.call]
    split
    · exact added
    · exact added.takeDocument.drain fun d pends => pends
  | intent i =>
    simp only [Desk.call]
    split
    · exact pends
    · exact pends.takeDocument.drain fun d pends => pends
  | snapshot =>
    simp only [Desk.call]
    split <;> exact pends
  | shutdown =>
    simp only [Desk.call]
    split <;> exact pends

theorem Pends.proceed (pends : d.Pends texts) (f : Finding) : (d.proceed f).desk.Pends texts := by
  unfold Desk.proceed
  split
  case h_5 | h_7 => exact pends
  case h_6 => exact Pends.release (by exact pends) _ _
  all_goals exact Pends.drain (by exact pends) fun d pends => by exact pends

/-! ### What a desk does next -/

/-- What taking the edits and the document from an inbox leaves. -/
structure Drained (d d' : Desk) : Prop where
  engine : ∃ document version outline, d'.engine = { d.engine with document, version, outline }
  edit : d'.inbox.edit = none
  waiting : d'.waiting = d.waiting

theorem Drained.engine_offset {d' : Desk} (drained : d.Drained d') : d'.engine.offset = d.engine.offset := by
  obtain ⟨document, version, outline, same⟩ := drained.engine
  rw [same]

theorem takeDocument_engine (d : Desk) :
    ∃ document version outline, d.takeDocument.engine = { d.engine with document, version, outline } := by
  unfold Desk.takeDocument
  split
  · exact ⟨_, _, _, rfl⟩
  · exact ⟨_, _, _, rfl⟩

/-- A drained desk goes on, or first retracts an edit that lies in the verified region. -/
theorem drain_cases (d : Desk) (ticket : Ticket) (phase : Phase) (otherwise : Desk → Move) :
    ∃ d', d.Drained d' ∧
      ((∀ edit, d.inbox.edit = some edit → d'.engine.offset ≤ edit) ∧ d.drain ticket phase otherwise = otherwise d' ∨
        ∃ edit, d.inbox.edit = some edit ∧ edit < d'.engine.offset ∧
          d.drain ticket phase otherwise = d'.perform ticket phase (.retract edit)) := by
  unfold Desk.drain
  split
  · next none =>
    refine ⟨d, ⟨⟨_, _, _, rfl⟩, none, rfl⟩, .inl ⟨?_, rfl⟩⟩
    intro edit some
    simp [none] at some
  · next edit some =>
    let d₁ := { d with inbox.edit := none }
    refine ⟨d₁.takeDocument, ⟨takeDocument_engine d₁, takeDocument_edit d₁, takeDocument_waiting d₁⟩, ?_⟩
    dsimp only
    split
    · next inside => exact .inr ⟨edit, some, inside, rfl⟩
    · next outside =>
      refine .inl ⟨?_, rfl⟩
      intro edit' some'
      obtain rfl := Option.some.inj (some.symm.trans some')
      exact Nat.not_lt.mp outside

theorem Drained.taken {d' : Desk} (drained : d.takeDocument.Drained d') : d.Drained d' where
  engine := by
    obtain ⟨_, _, _, first⟩ := takeDocument_engine d
    obtain ⟨_, _, _, second⟩ := drained.engine
    exact ⟨_, _, _, second.trans (by rw [first])⟩
  edit := drained.edit
  waiting := drained.waiting.trans (takeDocument_waiting d)

/-- An update that finds the engine free. -/
theorem update_cases (free : d.holder = none) (ticket : Ticket) (document : String) (version : Int)
    (edit : Option Nat) :
    ∃ d', ({ d with inbox := d.inbox.add document version edit } : Desk).Drained d' ∧
      ((∀ first, (d.inbox.add document version edit).edit = some first → d'.engine.offset ≤ first) ∧
          d.call ticket (.update document version edit) = d'.wrapUp ticket (.updated none) ∨
        ∃ first, (d.inbox.add document version edit).edit = some first ∧ first < d'.engine.offset ∧
          d.call ticket (.update document version edit) = d'.perform ticket .settling (.retract first)) := by
  let added := { d with inbox := d.inbox.add document version edit }
  obtain ⟨d', drained, cases⟩ :=
    added.takeDocument.drain_cases ticket .settling fun d => d.wrapUp ticket (.updated none)
  rw [takeDocument_edit] at cases
  exact ⟨d', drained.taken, by simpa [Desk.call, free, added] using cases⟩

/-- An intent that finds the engine free. -/
theorem intent_cases (free : d.holder = none) (ticket : Ticket) (i : Intent) :
    ∃ d', d.Drained d' ∧
      ((∀ first, d.inbox.edit = some first → d'.engine.offset ≤ first) ∧
          d.call ticket (.intent i) = d'.perform ticket .acting i ∨
        ∃ first, d.inbox.edit = some first ∧ first < d'.engine.offset ∧
          d.call ticket (.intent i) = d'.perform ticket (.opening i) (.retract first)) := by
  obtain ⟨d', drained, cases⟩ := d.takeDocument.drain_cases ticket (.opening i) fun d => d.perform ticket .acting i
  rw [takeDocument_edit] at cases
  exact ⟨d', drained.taken, by simpa [Desk.call, free] using cases⟩

/-- What follows an operation that a phase carried out: the retraction of an edit that came meanwhile, the operation of
an intent that was held up, or the answer. -/
inductive Follows (d : Desk) (ticket : Ticket) (phase : Phase) (o : Outcome) : Move → Prop
  | retracts {d'} (drained : d.Drained d') (edit : Nat) (pending : d.inbox.edit = some edit)
    (inside : edit < d'.engine.offset) : Follows d ticket phase o (d'.perform ticket (phase.again o) (.retract edit))
  | opens {d'} (drained : d.Drained d') (i : Intent) (held : phase = .opening i) :
    Follows d ticket phase o (d'.perform ticket .acting i)
  | answers {d'} (drained : d.Drained d') : Follows d ticket phase o (d'.wrapUp ticket (phase.answer o))

theorem drain_follows (ticket : Ticket) (phase : Phase) (o : Outcome) {otherwise : Desk → Move}
    (next : ∀ d', d.Drained d' → d.Follows ticket phase o (otherwise d')) :
    d.Follows ticket phase o (d.drain ticket (phase.again o) otherwise) := by
  obtain ⟨d', drained, ⟨-, goesOn⟩ | ⟨edit, pending, inside, retracts⟩⟩ :=
    d.drain_cases ticket (phase.again o) otherwise
  · rw [goesOn]
    exact next d' drained
  · rw [retracts]
    exact .retracts drained edit pending inside

theorem performed_follows {ticket : Ticket} {phase : Phase} (held : d.holder = some (ticket, phase))
    (operates : phase.operates = true) (o : Outcome) (e : Engine) :
    ({ d with engine := e } : Desk).Follows ticket phase o (d.proceed (.performed o e)) := by
  cases phase with
  | opening i =>
    simp only [Desk.proceed, held]
    exact drain_follows ticket (.opening i) o fun d' drained => .opens drained i rfl
  | acting =>
    simp only [Desk.proceed, held]
    exact drain_follows ticket .acting o fun d' drained => .answers drained
  | closing first =>
    simp only [Desk.proceed, held]
    exact drain_follows ticket (.closing first) o fun d' drained => .answers drained
  | settling =>
    simp only [Desk.proceed, held]
    exact drain_follows ticket .settling o fun d' drained => .answers drained
  | stopping | recording => cases operates

/-- The status has been noted, and the call is answered. -/
theorem proceed_status {ticket : Ticket} {a : Answer} (held : d.holder = some (ticket, .recording a)) (s : Status) :
    d.proceed (.status s) = ({ d with noted := s, offset := s.offset } : Desk).release [(ticket, a)] d.waiting := by
  simp [Desk.proceed, held]

/-- A desk that is done with a call shows the log to the calls that wait for that, up to the first that is to stop the
prover, if there is one. -/
theorem release_cases (d : Desk) (answers : List (Ticket × Answer)) (waiting : List (Ticket × Bool)) :
    ∃ shown : List (Ticket × Answer), (∀ a ∈ shown, ∃ snapshot, a.2 = .snapshot snapshot) ∧
      (d.release answers waiting =
          { desk := { d with holder := none, waiting := [] }, answers := answers ++ shown } ∨
        ∃ ticket rest,
          d.release answers waiting = ({ d with waiting := rest } : Desk).stop ticket (answers ++ shown)) := by
  fun_induction Desk.release d answers waiting with
  | case1 => exact ⟨[], by simp, .inl (by simp)⟩
  | case2 answers ticket rest ih =>
    obtain ⟨shown, snapshots, released⟩ := ih
    refine ⟨(ticket, .snapshot d.engine.undo.snapshot) :: shown, ?_, by simpa using released⟩
    intro a mem
    rcases List.mem_cons.mp mem with rfl | mem
    · exact ⟨_, rfl⟩
    · exact snapshots a mem
  | case3 answers ticket rest => exact ⟨[], by simp, .inr ⟨ticket, rest, by simp⟩⟩

theorem release_inbox (d : Desk) (answers : List (Ticket × Answer)) (waiting : List (Ticket × Bool)) :
    (d.release answers waiting).desk.inbox = d.inbox := by
  obtain ⟨shown, -, free | ⟨ticket, rest, stops⟩⟩ := d.release_cases answers waiting
  · rw [free]
  · rw [stops]
    rfl

/-- The end of an operation is followed by taking the edits from the inbox; that of another phase leaves them there. -/
theorem proceed_edit (d : Desk) (f : Finding) :
    (d.proceed f).desk.inbox.edit = none ∧ (∃ o e, f = .performed o e) ∨
      (d.proceed f).desk.inbox.edit = d.inbox.edit := by
  have drains : ∀ (d : Desk) (ticket : Ticket) (phase : Phase) (otherwise : Desk → Move),
      (∀ d', (otherwise d').desk.inbox = d'.inbox) → (d.drain ticket phase otherwise).desk.inbox.edit = none := by
    intro d ticket phase otherwise same
    obtain ⟨d', drained, ⟨-, goesOn⟩ | ⟨edit, -, -, retracts⟩⟩ := d.drain_cases ticket phase otherwise
    · rw [goesOn, same]
      exact drained.edit
    · rw [retracts]
      exact drained.edit
  unfold Desk.proceed
  split
  case h_5 | h_7 => exact .inr rfl
  case h_6 => exact .inr (congrArg Inbox.edit (release_inbox _ _ _))
  all_goals exact .inl ⟨drains _ _ _ _ fun d' => rfl, _, _, rfl⟩

end Desk

namespace Course

/-- A call changes nothing of the phase in progress. -/
theorem call_held {d : Desk} (ticket : Ticket) (x : Call) (held : d.holder.isSome) :
    (d.call ticket x).work = none ∧ (d.call ticket x).desk.holder = d.holder ∧
      (d.call ticket x).desk.engine = d.engine := by
  cases x <;> simp [Desk.call, held]

/-- One condition holds while the engine is free, and the dialogue of the phase in progress leads to another. -/
def Holds (C : Contract σ) (idle : Desk → σ → Prop) (found : Desk → Finding → σ → Prop) (d : Desk)
    (work : Option (Dialogue Finding)) (s : σ) : Prop :=
  match work with
  | none => d.holder = none ∧ idle d s
  | some work => d.holder.isSome ∧ work.Leads C (found d) s

namespace Holds
variable {C : Contract σ} {idle : Desk → σ → Prop} {found : Desk → Finding → σ → Prop} {c : Course} {s : σ}

theorem rest (holds : Holds C idle found c.desk c.work s) (free : c.desk.holder = none) :
    c.work = none ∧ idle c.desk s := by
  cases working : c.work with
  | none =>
    simp only [working, Holds] at holds
    exact ⟨rfl, holds.2⟩
  | some work => simp [working, Holds, free] at holds

/-- Only the calls that find the engine free matter. -/
theorem call (holds : Holds C idle found c.desk c.work s) (ticket : Ticket) (x : Call)
    (same : ∀ d' : Desk, d'.holder = c.desk.holder → d'.engine = c.desk.engine → found d' = found c.desk)
    (takes : c.desk.holder = none → idle c.desk s →
      Holds C idle found (c.desk.call ticket x).desk (c.desk.call ticket x).work s) :
    Holds C idle found (c.call ticket x).desk (c.call ticket x).work s := by
  cases working : c.work with
  | none =>
    simp only [working, Holds] at holds
    simpa [Course.call, working] using takes holds.1 holds.2
  | some work =>
    simp only [working, Holds] at holds
    obtain ⟨none, holder, engine⟩ := call_held ticket x holds.1
    simp only [Course.call, working, none, Option.none_or, Holds, holder, same _ holder engine]
    exact holds

theorem hear (holds : Holds C idle found c.desk c.work s) {q : Query} {next : q.Reply → Dialogue Finding} {r : q.Reply}
    {s' : σ} (waits : c.work = some (.ask q next)) (answers : C.answers s q r s') :
    C.asks s q ∧ Holds C idle found (c.hear q r (some (next r))).desk (c.hear q r (some (next r))).work s' := by
  simp only [waits, Holds] at holds
  obtain ⟨held, asks, leads⟩ := holds
  exact ⟨asks, held, leads r s' answers⟩

theorem ended (holds : Holds C idle found c.desk c.work s) {f : Finding} (ended : c.work = some (.done f)) :
    found c.desk f s := by
  simp only [ended, Holds, Dialogue.leads_done] at holds
  exact holds.2

end Holds

variable (W : Watch σ) (I : Engine → σ → Prop)

/-- What the dialogue of the phase in progress has to lead to. -/
def Awaits (d : Desk) (f : Finding) (s : σ) : Prop :=
  match d.holder, f with
  | some (_, .opening _), .performed _ e => I e s
  | some (_, .acting), .performed _ e => I e s
  | some (_, .closing _), .performed _ e => I e s
  | some (_, .settling), .performed _ e => I e s
  | some (_, .stopping), .stopped e => I e s
  | some (_, .recording _), .status _ => I d.engine s
  | _, _ => False

/-- The condition holds while the engine is free, and the phase in progress leads back to it. -/
def Sound (d : Desk) (work : Option (Dialogue Finding)) (s : σ) : Prop :=
  match work with
  | none => d.holder = none ∧ I d.engine s
  | some work => d.holder.isSome ∧ work.Leads W.contract (Awaits I d) s

theorem sound_iff (d : Desk) (work : Option (Dialogue Finding)) (s : σ) :
    Sound W I d work s ↔ Holds W.contract (fun d => I d.engine) (Awaits I) d work s := by
  cases work <;> rfl

/-- The condition holds of an engine that is settled. -/
theorem Sound.settled {W : Watch σ} {I : Engine → σ → Prop} {c : Course} {e : Engine} {s : σ}
    (sound : Sound W I c.desk c.work s) (settled : c.Settled e) : I e s := by
  rw [sound_iff] at sound
  cases settled with
  | free free => exact (sound.rest free).2
  | performed o e ended =>
    have found := sound.ended ended
    unfold Awaits at found
    split at found <;> simp_all
  | stopped e ended =>
    have found := sound.ended ended
    unfold Awaits at found
    split at found <;> simp_all

variable {W I} {texts : String → Prop} {d : Desk} {s : σ} (keeps : W.KeepsOn texts I)
include keeps

theorem takeDocument_keeps (pends : d.Pends texts) (holds : I d.engine s) : I d.takeDocument.engine s := by
  unfold Desk.takeDocument
  split
  · next document version pending => exact keeps.setDocument _ _ (pends document version pending) holds
  · exact holds

theorem perform_sound (ticket : Ticket) (phase : Phase) (i : Intent) (holds : I d.engine s)
    (performs : ∀ (d : Desk) o e s, d.holder = some (ticket, phase) → I e s → Awaits I d (.performed o e) s) :
    Sound W I (d.perform ticket phase i).desk (d.perform ticket phase i).work s := by
  refine ⟨rfl, ?_⟩
  rw [Dialogue.leads_bind]
  exact (keeps.perform i holds).mono fun p s' holds' => performs _ p.1 p.2 s' rfl holds'

theorem wrapUp_sound (ticket : Ticket) (a : Answer) (holds : I d.engine s) :
    Sound W I (d.wrapUp ticket a).desk (d.wrapUp ticket a).work s := by
  refine ⟨rfl, (keeps.running holds).1, ?_⟩
  rintro running s' ⟨admitted, rfl⟩
  exact (keeps.running holds).2 running admitted

theorem stop_sound (ticket : Ticket) (answers : List (Ticket × Answer)) (holds : I d.engine s) :
    Sound W I (d.stop ticket answers).desk (d.stop ticket answers).work s := by
  refine ⟨rfl, ?_⟩
  rw [Dialogue.leads_bind]
  exact (keeps.shutdown holds).mono fun e s' holds' => holds'

theorem drain_sound (ticket : Ticket) (phase : Phase) (otherwise : Desk → Move) (pends : d.Pends texts)
    (holds : I d.engine s)
    (performs : ∀ (d : Desk) o e s, d.holder = some (ticket, phase) → I e s → Awaits I d (.performed o e) s)
    (next : ∀ d : Desk, I d.engine s → Sound W I (otherwise d).desk (otherwise d).work s) :
    Sound W I (d.drain ticket phase otherwise).desk (d.drain ticket phase otherwise).work s := by
  unfold Desk.drain
  split
  · exact next d holds
  · have taken := takeDocument_keeps (d := { d with inbox.edit := none }) keeps pends holds
    dsimp only
    split
    · exact perform_sound keeps ticket phase _ taken performs
    · exact next _ taken

theorem release_sound (answers : List (Ticket × Answer)) (waiting : List (Ticket × Bool)) (holds : I d.engine s) :
    Sound W I (d.release answers waiting).desk (d.release answers waiting).work s := by
  fun_induction Desk.release d answers waiting with
  | case1 => exact ⟨rfl, holds⟩
  | case2 answers ticket rest ih => exact ih
  | case3 answers ticket rest => exact stop_sound keeps ticket answers holds

theorem call_sound (ticket : Ticket) {x : Call} (free : d.holder = none) (brings : x.Brings texts)
    (pends : d.Pends texts) (holds : I d.engine s) :
    Sound W I (d.call ticket x).desk (d.call ticket x).work s := by
  have idle : d.holder.isSome = false := by simp [free]
  cases x with
  | update document version edit =>
    have added : ({ d with inbox := d.inbox.add document version edit } : Desk).Pends texts := Desk.pends_add brings
    simp only [Desk.call, idle, Bool.false_eq_true, ↓reduceIte]
    apply drain_sound keeps
    · exact added.takeDocument
    · exact takeDocument_keeps keeps added holds
    · exact fun d _ _ _ held holds' => by simpa [Awaits, held] using holds'
    · exact fun d holds' => wrapUp_sound keeps ticket _ holds'
  | intent i =>
    simp only [Desk.call, idle, Bool.false_eq_true, ↓reduceIte]
    apply drain_sound keeps
    · exact pends.takeDocument
    · exact takeDocument_keeps keeps pends holds
    · exact fun d _ _ _ held holds' => by simpa [Awaits, held] using holds'
    · exact fun d holds' => perform_sound keeps ticket _ i holds' fun d _ _ _ held holds'' => by
        simpa [Awaits, held] using holds''
  | snapshot =>
    simp only [Desk.call, idle, Bool.false_eq_true, ↓reduceIte]
    exact ⟨free, holds⟩
  | shutdown =>
    simp only [Desk.call, idle, Bool.false_eq_true, ↓reduceIte]
    exact stop_sound keeps ticket [] holds

theorem proceed_sound {f : Finding} (pends : d.Pends texts) (found : Awaits I d f s) :
    Sound W I (d.proceed f).desk (d.proceed f).work s := by
  unfold Awaits at found
  unfold Desk.proceed
  split at found
  · next ticket i o e held =>
    simp only [held]
    apply drain_sound keeps
    · exact pends
    · exact found
    · exact fun d _ _ _ held holds => by simpa [Awaits, held] using holds
    · exact fun d holds => perform_sound keeps ticket _ i holds fun d _ _ _ held holds' => by
        simpa [Awaits, held] using holds'
  · next ticket o e held =>
    simp only [held]
    apply drain_sound keeps
    · exact pends
    · exact found
    · exact fun d _ _ _ held holds => by simpa [Awaits, held] using holds
    · exact fun d holds => wrapUp_sound keeps ticket _ holds
  · next ticket o retraction e held =>
    simp only [held]
    apply drain_sound keeps
    · exact pends
    · exact found
    · exact fun d _ _ _ held holds => by simpa [Awaits, held] using holds
    · exact fun d holds => wrapUp_sound keeps ticket _ holds
  · next ticket retraction e held =>
    simp only [held]
    apply drain_sound keeps
    · exact pends
    · exact found
    · exact fun d _ _ _ held holds => by simpa [Awaits, held] using holds
    · exact fun d holds => wrapUp_sound keeps ticket _ holds
  · next ticket e held =>
    simp only [held]
    exact wrapUp_sound keeps ticket _ found
  · next ticket a status held =>
    simp only [held]
    exact release_sound keeps _ _ found
  · exact found.elim

omit keeps in
theorem awaits_congr {d' : Desk} (holder : d'.holder = d.holder) (engine : d'.engine = d.engine) :
    Awaits I d' = Awaits I d := by
  funext f s
  simp only [Awaits, holder, engine]

/-- The condition holds whenever the engine is free, and no question was asked that may not be. -/
theorem step_sound {c c' : Course} (step : StepOn texts c c') (pends : c.desk.Pends texts)
    (sound : W.Lawful c.asked → W.Orderly c.asked ∧ Sound W I c.desk c.work (W.sum c.asked))
    (lawful : W.Lawful c'.asked) : W.Orderly c'.asked ∧ Sound W I c'.desk c'.work (W.sum c'.asked) := by
  cases step with
  | call ticket x brings =>
    obtain ⟨orderly, sound⟩ := sound lawful
    refine ⟨orderly, ?_⟩
    rw [sound_iff] at sound ⊢
    refine sound.call ticket x (fun _ => awaits_congr) ?_
    intro free holds
    rw [← sound_iff]
    exact call_sound keeps ticket free brings pends holds
  | hear q next r waits =>
    obtain ⟨before, admitted⟩ := (W.lawful_concat c.asked ⟨q, r⟩).mp lawful
    obtain ⟨orderly, sound⟩ := sound before
    rw [sound_iff] at sound
    obtain ⟨allowed, sound⟩ := sound.hear waits ⟨admitted, rfl⟩
    refine ⟨(W.orderly_concat c.asked ⟨q, r⟩).mpr ⟨orderly, allowed⟩, ?_⟩
    rw [sound_iff]
    simp only [Course.hear, Watch.sum_concat]
    exact sound
  | proceed f ended =>
    obtain ⟨orderly, sound⟩ := sound lawful
    rw [sound_iff] at sound
    exact ⟨orderly, proceed_sound keeps pends (sound.ended ended)⟩
  | look running free =>
    obtain ⟨before, admitted⟩ := (W.lawful_concat c.asked ⟨.running, running⟩).mp lawful
    obtain ⟨orderly, sound⟩ := sound before
    rw [sound_iff] at sound
    obtain ⟨idle, holds⟩ := sound.rest free
    obtain ⟨allowed, answered⟩ := keeps.running holds
    refine ⟨(W.orderly_concat c.asked ⟨.running, _⟩).mpr ⟨orderly, allowed⟩, ?_⟩
    simp only [Course.hear, idle, Sound, Watch.sum_concat]
    exact ⟨free, answered _ admitted⟩

omit keeps in
theorem step_pends {c c' : Course} (step : StepOn texts c c') (pends : c.desk.Pends texts) :
    c'.desk.Pends texts := by
  cases step with
  | call ticket x brings => exact pends.call ticket brings
  | hear | look => exact pends
  | proceed f ended => exact pends.proceed f

theorem reachedOn_sound {settings : Settings} {c : Course}
    (starts : ∀ engine, Engine.ofSettings settings = .ok engine → I engine W.start)
    (reached : ReachedOn settings texts c) (lawful : W.Lawful c.asked) :
    W.Orderly c.asked ∧ Sound W I c.desk c.work (W.sum c.asked) := by
  obtain ⟨desk, opened, path⟩ := reached
  have started : desk.Pends texts ∧ Sound W I desk none W.start := by
    obtain ⟨e, made, rfl⟩ := Desk.ofSettings_ok opened
    exact ⟨fun _ _ pending => by simp at pending, rfl, starts e made⟩
  have kept : c.desk.Pends texts ∧
      (W.Lawful c.asked → W.Orderly c.asked ∧ Sound W I c.desk c.work (W.sum c.asked)) := by
    clear lawful
    induction path with
    | refl => exact ⟨started.1, fun _ => ⟨fun before a after same => by simp at same, started.2⟩⟩
    | tail path step ih => exact ⟨step_pends step ih.1, step_sound keeps step ih.1 ih.2⟩
  exact kept.2 lawful

omit keeps in
theorem reached_sound (keeps : W.Keeps I) {settings : Settings} {c : Course}
    (starts : ∀ engine, Engine.ofSettings settings = .ok engine → I engine W.start)
    (reached : Reached settings c) (lawful : W.Lawful c.asked) :
    W.Orderly c.asked ∧ Sound W I c.desk c.work (W.sum c.asked) :=
  reachedOn_sound keeps.on starts reached.on lawful

end Course
end Frontier
