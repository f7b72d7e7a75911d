import Frontier.Proofs.Bookkeeping

/-!
# Interleaved calls

Calls of hosts are tasks that give way to one another only while they wait: for the prover, or for the engine. An edit
that comes while another call holds the engine is left in the inbox. A call that carries out an operation looks there
before it lets the engine go. One that stops the prover, or only shows the log, does not; an edit that comes while such
a call holds the engine waits for the next update or intent.
-/

namespace Frontier

/-- Whether the call that asks gives way to others until the answer comes. -/
def Query.waits : Query → Bool
  | .start | .halt _ | .send _ | .listen _ => true
  | _ => false

/-- A call that waits for the engine. -/
def Call.Queues (x : Call) : Prop := x = .snapshot ∨ x = .shutdown

/-- The edits that nobody looks after, when another call comes. An update or an intent that finds the engine free takes
all of them up. -/
def Desk.missed (d : Desk) (missed : List Nat) : Call → List Nat
  | .update _ _ edit =>
    match d.holder with
    | none => []
    | some (_, phase) => if phase.operates then missed else missed ++ edit.toList
  | .intent _ => if d.holder.isSome then missed else []
  | _ => missed

namespace Course

/-- Hosts get their turn: no dialogue goes on, or it waits for an answer, or the call is done and has handed the engine
on to one that has not gone on yet. -/
def gives (c : Course) : Bool :=
  match c.work with
  | none => true
  | some (.ask q _) => q.waits
  | some (.done (.status _)) => !c.desk.waiting.isEmpty
  | some (.done _) => false

/-- What may come of a new desk when hosts take turns, and the edits that nobody looks after. -/
inductive Interleaved (settings : Settings) (meant : Call → Prop) : Course → List Nat → Prop
  | opened {desk} (opened : Desk.ofSettings settings = .ok desk) : Interleaved settings meant { desk } []
  | call {c missed} (sofar : Interleaved settings meant c missed) (gives : c.gives = true) (ticket : Ticket) (x : Call)
    (kind : meant x) : Interleaved settings meant (c.call ticket x) (c.desk.missed missed x)
  | hear {c missed} (sofar : Interleaved settings meant c missed) (q : Query) (next : q.Reply → Dialogue Finding)
    (r : q.Reply) (waits : c.work = some (.ask q next)) : Interleaved settings meant (c.hear q r (some (next r))) missed
  | proceed {c missed} (sofar : Interleaved settings meant c missed) (f : Finding) (ended : c.work = some (.done f)) :
    Interleaved settings meant (c.proceed f) missed
  | look {c missed} (sofar : Interleaved settings meant c missed) (running : Bool) (free : c.desk.holder = none) :
    Interleaved settings meant (c.hear .running running c.work) missed

variable {settings : Settings} {meant : Call → Prop} {c : Course} {missed : List Nat}

theorem Interleaved.reached (history : Interleaved settings meant c missed) : c.Reached settings := by
  induction history with
  | opened opened => exact ⟨_, opened, .refl⟩
  | call _ gives ticket x kind ih => exact ih.step (.call ticket x)
  | hear _ q next r waits ih => exact ih.step (.hear q next r waits)
  | proceed _ f ended ih => exact ih.step (.proceed f ended)
  | look _ running free ih => exact ih.step (.look running free)

end Course

/-! ## Edits left behind -/

theorem Dialogue.leads_anyProver {α : Type} (d : Dialogue α) : d.Leads anyProver (fun _ _ => True) () := by
  induction d with
  | done a => trivial
  | ask q next ih => exact ⟨trivial, fun r s' _ => ih r⟩

/-- No condition at all. -/
theorem anything_keeps : (reporting fun _ => True).Keeps fun _ _ => True where
  setDocument _ _ _ := trivial
  perform _ _ := Dialogue.leads_anyProver _
  shutdown _ := Dialogue.leads_anyProver _
  running _ := ⟨trivial, fun _ _ => trivial⟩

/-- The dialogue of a phase ends with what the phase is for. -/
theorem Course.Reached.awaits {settings : Settings} {c : Course} (reached : c.Reached settings) {f : Finding}
    (ended : c.work = some (.done f)) : Course.Awaits (fun _ (_ : Unit) => True) c.desk f () := by
  obtain ⟨-, sound⟩ := Course.reached_sound anything_keeps (fun _ _ => trivial) reached (lawful_anyProver c.asked)
  exact ((Course.sound_iff _ _ _ _ _).mp sound).ended ended

theorem Inbox.add_missed {b : Inbox} {missed : List Nat} (same : b.edit = missed.min?) (document : String)
    (version : Int) (edit : Option Nat) : (b.add document version edit).edit = (missed ++ edit.toList).min? := by
  cases edit with
  | none => simpa [Inbox.add] using same
  | some e =>
    cases missed with
    | nil => simp_all [Inbox.add]
    | cons first rest =>
      have pending : b.edit = some (rest.foldl min first) := same
      simp [Inbox.add, pending, List.min?, List.foldl_append]

namespace Desk
variable {d : Desk} {missed : List Nat} {ticket : Ticket} {phase : Phase} {m : Move}

/-- A desk with so many calls that wait has taken the edits from the inbox, and begins an operation or notes the
status. -/
inductive GoesOn (waiting : List (Ticket × Bool)) (ticket : Ticket) : Move → Prop
  | performs {d : Desk} (phase : Phase) (i : Intent) (taken : d.inbox.edit = none) (same : d.waiting = waiting)
    (operates : phase.operates = true) : GoesOn waiting ticket (d.perform ticket phase i)
  | notes {d : Desk} (a : Answer) (taken : d.inbox.edit = none) (same : d.waiting = waiting) :
    GoesOn waiting ticket (d.wrapUp ticket a)

/-- A free engine is given to an update or an intent. -/
theorem call_goesOn (free : d.holder = none) (ticket : Ticket) {x : Call} (takes : ¬ x.Queues) :
    GoesOn d.waiting ticket (d.call ticket x) := by
  cases x with
  | update document version edit =>
    obtain ⟨d', drained, ⟨-, notes⟩ | ⟨first, -, -, retracts⟩⟩ := update_cases free ticket document version edit
    · rw [notes]
      exact .notes _ drained.edit drained.waiting
    · rw [retracts]
      exact .performs .settling _ drained.edit drained.waiting rfl
  | intent i =>
    obtain ⟨d', drained, ⟨-, performs⟩ | ⟨first, -, -, retracts⟩⟩ := intent_cases free ticket i
    · rw [performs]
      exact .performs .acting i drained.edit drained.waiting rfl
    · rw [retracts]
      exact .performs (.opening i) _ drained.edit drained.waiting rfl
  | snapshot => exact absurd (.inl rfl) takes
  | shutdown => exact absurd (.inr rfl) takes

/-- An operation has come to an end. -/
theorem proceed_goesOn (held : d.holder = some (ticket, phase)) (operates : phase.operates = true) (o : Outcome)
    (e : Engine) : GoesOn d.waiting ticket (d.proceed (.performed o e)) := by
  have follows := performed_follows held operates o e
  generalize d.proceed (.performed o e) = m at follows ⊢
  cases follows with
  | retracts drained edit pending inside =>
    rw [← Phase.again_operates o] at operates
    exact .performs _ _ drained.edit drained.waiting operates
  | opens drained i held => exact .performs .acting i drained.edit drained.waiting rfl
  | answers drained => exact .notes _ drained.edit drained.waiting

/-- While an operation is carried out, no edit is left behind; otherwise those in the inbox are. -/
def LeavesBehind (d : Desk) (missed : List Nat) : Prop :=
  match d.holder with
  | none => d.inbox.edit = missed.min?
  | some (_, phase) => if phase.operates then missed = [] else d.inbox.edit = missed.min?

theorem GoesOn.leavesBehind {waiting : List (Ticket × Bool)} (goesOn : GoesOn waiting ticket m) :
    m.desk.LeavesBehind [] := by
  cases goesOn with
  | performs phase i taken same operates => simp [LeavesBehind, perform, operates]
  | notes a taken same => simpa [LeavesBehind, wrapUp, Phase.operates] using taken

theorem LeavesBehind.call (behind : d.LeavesBehind missed) (ticket : Ticket) (x : Call) :
    (d.call ticket x).desk.LeavesBehind (d.missed missed x) := by
  cases held : d.holder with
  | none =>
    have idle : d.inbox.edit = missed.min? := by simpa [LeavesBehind, held] using behind
    cases x with
    | update document version edit =>
      simpa [Desk.missed, held] using (call_goesOn held ticket (by simp [Call.Queues])).leavesBehind
    | intent i => simpa [Desk.missed, held] using (call_goesOn held ticket (by simp [Call.Queues])).leavesBehind
    | snapshot => simpa [Desk.call, Desk.missed, LeavesBehind, held] using idle
    | shutdown => simpa [Desk.call, Desk.missed, LeavesBehind, held, stop, Phase.operates] using idle
  | some h =>
    obtain ⟨holder, phase⟩ := h
    cases operates : phase.operates with
    -- The inbox is looked into once more when the operation has come to an end.
    | true =>
      have none : missed = [] := by simpa [LeavesBehind, held, operates] using behind
      cases x <;> simp [Desk.call, Desk.missed, LeavesBehind, held, operates, none]
    | false =>
      have late : d.inbox.edit = missed.min? := by simpa [LeavesBehind, held, operates] using behind
      cases x with
      | update document version edit =>
        simpa [Desk.call, Desk.missed, LeavesBehind, held, operates] using Inbox.add_missed late document version edit
      | _ => simpa [Desk.call, Desk.missed, LeavesBehind, held, operates] using late

theorem LeavesBehind.proceed (behind : d.LeavesBehind missed) {f : Finding}
    (found : Course.Awaits (fun _ (_ : Unit) => True) d f ()) : (d.proceed f).desk.LeavesBehind missed := by
  have ends : ∀ {ticket phase o e}, d.holder = some (ticket, phase) → phase.operates = true →
      (d.proceed (.performed o e)).desk.LeavesBehind missed := by
    intro ticket phase o e held operates
    obtain rfl : missed = [] := by simpa [LeavesBehind, held, operates] using behind
    exact (proceed_goesOn held operates o e).leavesBehind
  unfold Course.Awaits at found
  split at found
  · next held => exact ends held rfl
  · next held => exact ends held rfl
  · next held => exact ends held rfl
  · next held => exact ends held rfl
  · next ticket e held =>
    simpa [Desk.proceed, LeavesBehind, held, Phase.operates, wrapUp] using behind
  · next ticket a status held =>
    have late : d.inbox.edit = missed.min? := by simpa [LeavesBehind, held, Phase.operates] using behind
    rw [proceed_status held]
    obtain ⟨shown, -, free | ⟨next, rest, stops⟩⟩ :=
      release_cases { d with noted := status, offset := status.offset } [(ticket, a)] d.waiting
    · rw [free]
      exact late
    · rw [stops]
      simpa [LeavesBehind, stop, Phase.operates] using late
  · exact found.elim

end Desk

namespace Course
variable {settings : Settings} {meant : Call → Prop} {c : Course} {missed : List Nat}

theorem Interleaved.leavesBehind (history : Interleaved settings meant c missed) : c.desk.LeavesBehind missed := by
  induction history with
  | opened opened =>
    obtain ⟨e, -, rfl⟩ := Desk.ofSettings_ok opened
    rfl
  | call _ gives ticket x kind ih => exact ih.call ticket x
  | hear _ q next r waits ih => exact ih
  | @proceed c missed sofar f ended ih =>
    exact ih.proceed (sofar.reached.awaits ended)
  | look _ running free ih => exact ih

/-- Nothing that is waited for is asked to note the status. -/
def Notes (work : Option (Dialogue Finding)) : Prop :=
  (∃ noted : Bool → Status, work = some (.ask .running fun running => .done (.status (noted running)))) ∨
    ∃ s, work = some (.done (.status s))

/-- No call queues for the engine, nobody stops the prover, and no host gets a turn while the status is noted. -/
structure Unqueued (d : Desk) (work : Option (Dialogue Finding)) : Prop where
  waiting : d.waiting = []
  stopping : ∀ ticket, d.holder ≠ some (ticket, .stopping)
  recording : ∀ ticket a, d.holder = some (ticket, .recording a) → Notes work

theorem Unqueued.operates (unqueued : Unqueued c.desk c.work) {ticket : Ticket} {phase : Phase}
    (held : c.desk.holder = some (ticket, phase)) (gives : c.gives = true) : phase.operates = true := by
  cases phase with
  | stopping => exact absurd held (unqueued.stopping ticket)
  | recording a =>
    rcases unqueued.recording ticket a held with ⟨noted, same⟩ | ⟨s, same⟩
    · simp [Course.gives, same, Query.waits] at gives
    · simp [Course.gives, same, unqueued.waiting] at gives
  | _ => rfl

theorem unqueued_of_goesOn {ticket : Ticket} {m : Move} (goesOn : Desk.GoesOn [] ticket m) :
    Unqueued m.desk m.work ∧ m.work.isSome := by
  cases goesOn with
  | performs phase i taken same operates =>
    refine ⟨⟨same, ?_, ?_⟩, rfl⟩
    · rintro ticket ⟨⟩
      cases operates
    · rintro ticket a ⟨⟩
      cases operates
  | notes a taken same => exact ⟨⟨same, by simp [Desk.wrapUp], fun _ _ _ => .inl ⟨_, rfl⟩⟩, rfl⟩

theorem Unqueued.proceed {d : Desk} {f : Finding} (unqueued : Unqueued d (some (.done f)))
    (found : Awaits (fun _ (_ : Unit) => True) d f ()) : Unqueued (d.proceed f).desk (d.proceed f).work := by
  have ends : ∀ {ticket phase o e}, d.holder = some (ticket, phase) → phase.operates = true →
      Unqueued (d.proceed (.performed o e)).desk (d.proceed (.performed o e)).work := by
    intro ticket phase o e held operates
    have goesOn := Desk.proceed_goesOn held operates o e
    rw [unqueued.waiting] at goesOn
    exact (unqueued_of_goesOn goesOn).1
  unfold Awaits at found
  split at found
  · next held => exact ends held rfl
  · next held => exact ends held rfl
  · next held => exact ends held rfl
  · next held => exact ends held rfl
  · next ticket e held => exact absurd held (unqueued.stopping ticket)
  · next ticket a status held =>
    simp only [Desk.proceed, held, unqueued.waiting, Desk.release]
    exact ⟨rfl, by simp, by simp⟩
  · exact found.elim

theorem Unqueued.call (unqueued : Unqueued c.desk c.work) (gives : c.gives = true) (ticket : Ticket) {x : Call}
    (takes : ¬ x.Queues) : Unqueued (c.call ticket x).desk (c.call ticket x).work ∧ c.desk.missed [] x = [] := by
  cases held : c.desk.holder with
  | none =>
    have goesOn := Desk.call_goesOn held ticket takes
    rw [unqueued.waiting] at goesOn
    obtain ⟨unqueued', works⟩ := unqueued_of_goesOn goesOn
    obtain ⟨work, works⟩ := Option.isSome_iff_exists.mp works
    refine ⟨?_, by cases x <;> simp [Desk.missed, held]⟩
    simpa [Course.call, works] using unqueued'
  | some h =>
    obtain ⟨holder, phase⟩ := h
    have operates := unqueued.operates held gives
    have busy : c.desk.holder.isSome := by simp [held]
    obtain ⟨none, same, -⟩ := call_held ticket x busy
    have waiting : (c.desk.call ticket x).desk.waiting = [] := by
      cases x with
      | update document version edit => simp [Desk.call, held, unqueued.waiting]
      | intent i => simp [Desk.call, held, unqueued.waiting]
      | snapshot => exact absurd (.inl rfl) takes
      | shutdown => exact absurd (.inr rfl) takes
    refine ⟨⟨waiting, ?_, ?_⟩, by cases x <;> simp [Desk.missed, held, operates]⟩
    · intro ticket'
      simp only [Course.call, same]
      exact unqueued.stopping ticket'
    · intro ticket' a
      simp only [Course.call, same, none, Option.none_or]
      exact unqueued.recording ticket' a

theorem Unqueued.hear (unqueued : Unqueued c.desk c.work) {q : Query} {next : q.Reply → Dialogue Finding}
    (waits : c.work = some (.ask q next)) (r : q.Reply) : Unqueued c.desk (some (next r)) := by
  refine ⟨unqueued.waiting, unqueued.stopping, ?_⟩
  intro ticket a held
  rcases unqueued.recording ticket a held with ⟨noted, same⟩ | ⟨s, same⟩
  · rw [waits] at same
    cases same
    exact .inr ⟨_, rfl⟩
  · rw [waits] at same
    cases same

/-- Where hosts only update the document and ask for intents, every edit is looked after. -/
theorem Interleaved.unqueued (history : Interleaved settings meant c missed) (takes : ∀ x, meant x → ¬ x.Queues) :
    Unqueued c.desk c.work ∧ missed = [] := by
  induction history with
  | opened opened =>
    obtain ⟨e, -, rfl⟩ := Desk.ofSettings_ok opened
    exact ⟨⟨rfl, by simp, by simp⟩, rfl⟩
  | call _ gives ticket x kind ih =>
    obtain ⟨unqueued, rfl⟩ := ih
    exact unqueued.call gives ticket (takes x kind)
  | hear _ q next r waits ih =>
    obtain ⟨unqueued, rfl⟩ := ih
    exact ⟨unqueued.hear waits r, rfl⟩
  | proceed sofar f ended ih =>
    obtain ⟨unqueued, rfl⟩ := ih
    rw [ended] at unqueued
    exact ⟨unqueued.proceed (sofar.reached.awaits ended), rfl⟩
  | look _ running free ih => exact ih

theorem Interleaved.play (history : Interleaved settings meant c missed) (reply : (q : Query) → q.Reply) (n : Nat) :
    Interleaved settings meant (c.play reply n) missed := by
  fun_induction Course.play reply n c with
  | case1 | case2 => exact history
  | case3 c n q next waits ih => exact ih (history.hear q next (reply q) waits)
  | case4 c n f ended ih => exact ih (history.proceed f ended)

end Course

/-- While no call is in progress, the edit in the inbox is the first of those that nobody looked after: those that came
while a call held the engine that stops the prover or shows the log, and after which no update or intent has found the
engine free. Where hosts make no such calls, every edit is taken up. -/
theorem pending_edit_came_late {settings : Settings} {meant : Call → Prop} {c : Course} {missed : List Nat}
    (history : c.Interleaved settings meant missed) :
    (c.desk.holder = none → c.desk.inbox.edit = missed.min? ∧ (c.desk.inbox.edit = none ↔ missed = [])) ∧
      ((∀ x, meant x → ¬ x.Queues) → missed = []) := by
  refine ⟨?_, fun takes => (history.unqueued takes).2⟩
  intro free
  have pending : c.desk.inbox.edit = missed.min? := by
    simpa [Desk.LeavesBehind, free] using history.leavesBehind
  exact ⟨pending, by rw [pending, List.min?_eq_none_iff]⟩

theorem bothCourse_interleaved : bothCourse.Interleaved {} (fun _ => True) [] := by
  have opened : Course.Interleaved {} (fun _ => True) { desk := .standard } [] := .opened Desk.ofSettings_default
  have updated : (({ desk := .standard } : Course).call 0 (.update "a. b." 1 none)).Interleaved {} (fun _ => True) [] :=
    opened.call rfl 0 _ trivial
  have stepping := (updated.play (sayingReply "[1|check]>\n[2|check]>\n" false) 9).call (by decide +kernel) 1
    (.intent (.goToCursor 5)) trivial
  have none : ∀ (d : Desk) (i : Intent), d.missed [] (.intent i) = [] := by simp [Desk.missed]
  rw [none] at stepping
  exact stepping.play _ 20

/-- A statement in the verified region is changed while the prover is being stopped. -/
def lateCourse : Course :=
  ((bothCourse.call 2 .shutdown).call 3 (.update "a. c." 2 (some 3))).play (sayingReply "" false) 20

/-- The edit stays in the inbox, and the region covers it. -/
theorem late_edit_pending : ∃ c : Course, c.Interleaved {} (fun _ => True) [3] ∧ c.desk.holder = none ∧
    c.desk.engine.offset = 5 ∧ c.desk.inbox.edit = some 3 := by
  have free : lateCourse.desk.holder = none := by decide +kernel
  have history : lateCourse.Interleaved {} (fun _ => True) [3] := by
    have stopping := bothCourse_interleaved.call (by decide +kernel) 2 .shutdown trivial
    have edited := stopping.call (by decide +kernel) 3 (.update "a. c." 2 (some 3)) trivial
    have missed : (bothCourse.call 2 .shutdown).desk.missed [] (.update "a. c." 2 (some 3)) = [3] := by
      decide +kernel
    have late := edited.play (sayingReply "" false) 20
    exact missed ▸ late
  exact ⟨lateCourse, history, free, by decide +kernel, ((pending_edit_came_late history).1 free).1⟩

end Frontier
