import Frontier.Proofs.Course
import Frontier.Proofs.Likeness
import Mathlib.Data.List.Forall2

/-!
# Courses in lockstep

What happens to a desk comes from outside: calls, and answers to questions. When the same happens to two desks whose
engines are alike, they do the same: they ask the same, give the same answers, and stay alike. What happens may come in
any order, also calls while a dialogue waits for an answer.
-/

namespace Frontier

/-- Dialogues of phases end alike. -/
inductive Finding.Alike : Finding → Finding → Prop
  | performed (o : Outcome) {e e' : Engine} (alike : e.Alike UndoLog.Alike e') :
    Alike (.performed o e) (.performed o e')
  | stopped {e e' : Engine} (alike : e.Alike UndoLog.Alike e') : Alike (.stopped e) (.stopped e')
  | status (s : Status) : Alike (.status s) (.status s)

/-- Two phases are the same, with dialogues that go alike, or there is none. -/
inductive WorkAlike : Option (Dialogue Finding) → Option (Dialogue Finding) → Prop
  | none : WorkAlike .none .none
  | some {d d' : Dialogue Finding} (alike : d.Alike Finding.Alike d') : WorkAlike (.some d) (.some d')

theorem WorkAlike.or {begun begun' work work' : Option (Dialogue Finding)} (begins : WorkAlike begun begun')
    (works : WorkAlike work work') : WorkAlike (begun.or work) (begun'.or work') := by
  cases begins with
  | none => exact works
  | some alike => exact .some alike

/-! ## Desks -/

/-- Desks that differ at most in their engines, which are alike, and in the status as last noted. -/
def Desk.Alike (d d' : Desk) : Prop :=
  ∃ engine noted, d.engine.Alike UndoLog.Alike engine ∧ d' = { d with engine, noted }

/-- The same region and the same states of the prover are shown. -/
structure Desk.ShowsSame (d d' : Desk) : Prop where
  offset : d'.offset = d.offset
  verified : d'.engine.offset = d.engine.offset
  proved : d'.engine.proved = d.engine.proved
  states : d'.engine.undo.snapshot = d.engine.undo.snapshot

theorem Desk.ShowsSame.trans {d₁ d₂ d₃ : Desk} (first : d₁.ShowsSame d₂) (second : d₂.ShowsSame d₃) :
    d₁.ShowsSame d₃ where
  offset := second.offset.trans first.offset
  verified := second.verified.trans first.verified
  proved := second.proved.trans first.proved
  states := second.states.trans first.states

/-- Desks do the same next. -/
structure Move.Alike (m m' : Move) : Prop where
  desk : m.desk.Alike m'.desk
  answers : m'.answers = m.answers
  work : WorkAlike m.work m'.work

namespace Engine
variable {e e' : Engine}

theorem Alike.setDocument (alike : e.Alike UndoLog.Alike e') (document : String) (version : Int) :
    (e.setDocument document version).Alike UndoLog.Alike (e'.setDocument document version) := by
  obtain ⟨undo, lastOutput, related, rfl⟩ := alike
  exact ⟨undo, lastOutput, related, rfl⟩

theorem Alike.status (alike : e.Alike UndoLog.Alike e') : e.status.Alike Eq e'.status := by
  obtain ⟨_, lastOutput, ⟨awaited, rfl⟩, rfl⟩ := alike
  exact .ask .running fun running => .done rfl

theorem Alike.shutdown (alike : e.Alike UndoLog.Alike e') :
    e.shutdown.Alike (Engine.Alike UndoLog.Alike) e'.shutdown := by
  obtain ⟨undo, lastOutput, related, rfl⟩ := alike
  exact .ask (.halt e.settings.stopWait) fun _ => .done ⟨undo, lastOutput, related, rfl⟩

end Engine

namespace Desk
variable {d d' : Desk}

theorem Alike.shows (alike : d.Alike d') : d.ShowsSame d' := by
  obtain ⟨_, noted, ⟨_, lastOutput, ⟨awaited, rfl⟩, rfl⟩, rfl⟩ := alike
  exact ⟨rfl, rfl, rfl, rfl⟩

theorem Alike.takeDocument (alike : d.Alike d') : d.takeDocument.Alike d'.takeDocument := by
  obtain ⟨engine, noted, alike, rfl⟩ := alike
  unfold Desk.takeDocument
  cases d.inbox.document with
  | none => exact ⟨engine, noted, alike, rfl⟩
  | some text => exact ⟨_, noted, alike.setDocument text.1 text.2, rfl⟩

theorem Alike.perform (alike : d.Alike d') (ticket : Ticket) (phase : Phase) (i : Intent) :
    (d.perform ticket phase i).Alike (d'.perform ticket phase i) := by
  obtain ⟨engine, noted, alike, rfl⟩ := alike
  refine ⟨⟨engine, _, alike, rfl⟩, rfl, .some ?_⟩
  refine Dialogue.Alike.bind (alike.perform i) ?_
  rintro ⟨o, e⟩ ⟨_, e'⟩ ⟨rfl, alike'⟩
  exact .done (.performed o alike')

theorem Alike.wrapUp (alike : d.Alike d') (ticket : Ticket) (a : Answer) :
    (d.wrapUp ticket a).Alike (d'.wrapUp ticket a) := by
  obtain ⟨engine, noted, alike, rfl⟩ := alike
  refine ⟨⟨engine, noted, alike, rfl⟩, rfl, .some ?_⟩
  refine Dialogue.Alike.bind alike.status ?_
  rintro s _ rfl
  exact .done (.status s)

theorem Alike.stop (alike : d.Alike d') (ticket : Ticket) (answers : List (Ticket × Answer)) :
    (d.stop ticket answers).Alike (d'.stop ticket answers) := by
  obtain ⟨engine, noted, alike, rfl⟩ := alike
  refine ⟨⟨engine, noted, alike, rfl⟩, rfl, .some ?_⟩
  exact Dialogue.Alike.bind alike.shutdown fun _ _ alike' => .done (.stopped alike')

theorem Alike.drain (alike : d.Alike d') (ticket : Ticket) (phase : Phase) {otherwise otherwise' : Desk → Move}
    (next : ∀ d d' : Desk, d.Alike d' → (otherwise d).Alike (otherwise' d')) :
    (d.drain ticket phase otherwise).Alike (d'.drain ticket phase otherwise') := by
  have edit : d'.inbox.edit = d.inbox.edit := by
    obtain ⟨engine, noted, -, rfl⟩ := alike
    rfl
  unfold Desk.drain
  rw [edit]
  cases d.inbox.edit with
  | none => exact next d d' alike
  | some edit =>
    have taken : ({ d with inbox.edit := none } : Desk).takeDocument.Alike
        ({ d' with inbox.edit := none } : Desk).takeDocument := by
      obtain ⟨engine, noted, alike, rfl⟩ := alike
      exact Alike.takeDocument ⟨engine, noted, alike, rfl⟩
    generalize ({ d with inbox.edit := none } : Desk).takeDocument = t,
      ({ d' with inbox.edit := none } : Desk).takeDocument = t' at taken
    dsimp only
    rw [taken.shows.verified]
    split
    · exact taken.perform ticket phase _
    · exact next t t' taken

theorem Alike.release (alike : d.Alike d') (answers : List (Ticket × Answer)) (waiting : List (Ticket × Bool)) :
    (d.release answers waiting).Alike (d'.release answers waiting) := by
  have shows := alike.shows
  obtain ⟨engine, noted, alike, rfl⟩ := alike
  induction waiting generalizing answers with
  | nil => exact ⟨⟨engine, noted, alike, rfl⟩, rfl, .none⟩
  | cons first rest ih =>
    obtain ⟨ticket, stops⟩ := first
    cases stops with
    | false =>
      simp only [Desk.release, shows.states]
      exact ih _
    | true =>
      exact Alike.stop (d := { d with waiting := rest }) ⟨engine, noted, alike, rfl⟩ ticket answers

theorem Alike.call (alike : d.Alike d') (ticket : Ticket) (x : Call) : (d.call ticket x).Alike (d'.call ticket x) := by
  have same := alike
  obtain ⟨engine, noted, alike, rfl⟩ := alike
  cases x with
  | update document version edit =>
    have added : ({ d with inbox := d.inbox.add document version edit } : Desk).Alike
        { d with inbox := d.inbox.add document version edit, engine, noted } := ⟨engine, noted, alike, rfl⟩
    simp only [Desk.call]
    split
    · exact ⟨added, rfl, .none⟩
    · exact added.takeDocument.drain ticket .settling fun d d' alike => alike.wrapUp ticket _
  | intent i =>
    simp only [Desk.call]
    split
    · exact ⟨same, rfl, .none⟩
    · exact same.takeDocument.drain ticket (.opening i) fun d d' alike => alike.perform ticket .acting i
  | snapshot =>
    simp only [Desk.call, same.shows.states]
    split
    · exact ⟨⟨engine, noted, alike, rfl⟩, rfl, .none⟩
    · exact ⟨same, rfl, .none⟩
  | shutdown =>
    simp only [Desk.call]
    split
    · exact ⟨⟨engine, noted, alike, rfl⟩, rfl, .none⟩
    · exact same.stop ticket []

theorem Alike.proceed (alike : d.Alike d') {f f' : Finding} (found : f.Alike f') :
    (d.proceed f).Alike (d'.proceed f') := by
  have same := alike
  obtain ⟨engine', noted', alike, rfl⟩ := alike
  obtain ⟨engine, inbox, noted, offset, holder, waiting⟩ := d
  rcases holder with _ | ⟨ticket, phase⟩
  · exact ⟨same, rfl, .none⟩
  cases found with
  | performed o left =>
    have ended : ∀ {e e' : Engine}, e.Alike UndoLog.Alike e' →
        Desk.Alike ⟨e, inbox, noted, offset, some (ticket, phase), waiting⟩
          ⟨e', inbox, noted', offset, some (ticket, phase), waiting⟩ := fun left => ⟨_, noted', left, rfl⟩
    cases phase with
    | opening i => exact (ended left).drain ticket _ fun d d' alike => alike.perform ticket .acting i
    | acting => exact (ended left).drain ticket _ fun d d' alike => alike.wrapUp ticket _
    | closing first => exact (ended left).drain ticket _ fun d d' alike => alike.wrapUp ticket _
    | settling => exact (ended left).drain ticket _ fun d d' alike => alike.wrapUp ticket _
    | stopping => exact ⟨same, rfl, .none⟩
    | recording a => exact ⟨same, rfl, .none⟩
  | stopped left =>
    cases phase with
    | stopping => exact Alike.wrapUp ⟨_, noted', left, rfl⟩ ticket .shutDown
    | _ => exact ⟨same, rfl, .none⟩
  | status s =>
    cases phase with
    | recording a =>
      have noted : Desk.Alike ⟨engine, inbox, s, s.offset, some (ticket, .recording a), waiting⟩
          ⟨engine', inbox, s, s.offset, some (ticket, .recording a), waiting⟩ := ⟨engine', s, alike, rfl⟩
      exact noted.release [(ticket, a)] waiting
    | _ => exact ⟨same, rfl, .none⟩

end Desk

/-! ## Courses -/

/-- The same question with the same answer, or the result of the same operation, told. -/
inductive Asked.Alike : Asked → Asked → Prop
  | same (a : Asked) : Alike a a
  | result (p : Publication) (output : String) :
    Alike ⟨.publish (.proofState p), ()⟩
      ⟨.publish (.proofState { p with transaction := p.transaction + 1, output }), ()⟩

/-- Something that happens to a desk. -/
inductive Happening where
  | call (ticket : Ticket) (x : Call)
  /-- A question is answered; the answer depends on what was asked. -/
  | hear (reply : (q : Query) → q.Reply)
  /-- The dialogue of a phase ends. -/
  | proceed
  /-- A host looks at the status. -/
  | look (running : Bool)

namespace Course
variable {c c' c₀ c₀' : Course}

/-- What becomes of a course when something happens. What cannot happen changes nothing. -/
def happen (c : Course) : Happening → Course
  | .call ticket x => c.call ticket x
  | .hear reply =>
    match c.work with
    | some (.ask q next) => c.hear q (reply q) (some (next (reply q)))
    | _ => c
  | .proceed =>
    match c.work with
    | some (.done f) => c.proceed f
    | _ => c
  | .look running => if c.desk.holder.isNone then c.hear .running running c.work else c

/-- What becomes of a course when several things happen. -/
def after (c : Course) (later : List Happening) : Course := later.foldl happen c

theorem happen_steps (c : Course) (h : Happening) : Relation.ReflTransGen Step c (c.happen h) := by
  fun_cases happen c h with
  | case1 ticket x => exact .single (.call ticket x)
  | case2 reply q next waits => exact .single (.hear q next (reply q) waits)
  | case4 f ended => exact .single (.proceed f ended)
  | case6 running free => exact .single (.look running (Option.isNone_iff_eq_none.mp free))
  | case3 | case5 | case7 => exact .refl

theorem Step.happens (step : Step c c') : ∃ h, c.happen h = c' := by
  cases step with
  | call ticket x => exact ⟨.call ticket x, rfl⟩
  | hear q next r waits =>
    classical
    -- Only one question waits; any reply does for the others.
    have reply : (q : Query) → q.Reply := by
      intro q
      cases q <;> exact default
    refine ⟨.hear (Function.update reply q r), ?_⟩
    simp [happen, waits]
  | proceed f ended => exact ⟨.proceed, by simp [happen, ended]⟩
  | look running free => exact ⟨.look running, by simp [happen, free]⟩

/-- All that may come of a course is what becomes of it when something happens. -/
theorem steps_iff_after : Relation.ReflTransGen Step c c' ↔ ∃ later, c.after later = c' := by
  constructor
  · intro path
    induction path with
    | refl => exact ⟨[], rfl⟩
    | tail _ step ih =>
      obtain ⟨later, rfl⟩ := ih
      obtain ⟨h, rfl⟩ := step.happens
      exact ⟨later ++ [h], by simp [after]⟩
  · rintro ⟨later, rfl⟩
    induction later generalizing c with
    | nil => exact .refl
    | cons h rest ih => exact (c.happen_steps h).trans ih

/-- Since two moments, the same was asked and answered in two courses, but for the numbers of transactions and the last
outputs. -/
structure AlikeSince (c₀ c₀' c c' : Course) : Prop where
  asked : ∃ asked asked', c.asked = c₀.asked ++ asked ∧ c'.asked = c₀'.asked ++ asked' ∧
    List.Forall₂ Asked.Alike asked asked'
  answers : ∃ answers, c.answers = c₀.answers ++ answers ∧ c'.answers = c₀'.answers ++ answers

/-- Whatever happens from now on, the same is asked and answered in two courses, and the same region and states are
shown. -/
def GoOnAlike (c c' : Course) : Prop := ∀ later, AlikeSince c c' (c.after later) (c'.after later) ∧
  (c.after later).desk.ShowsSame (c'.after later).desk

/-- Courses that were alike since two moments, and are going to be. -/
structure Lockstep (c₀ c₀' c c' : Course) : Prop extends AlikeSince c₀ c₀' c c' where
  desk : c.desk.Alike c'.desk
  work : WorkAlike c.work c'.work

namespace Lockstep
variable {d d' : Course}

theorem here (desks : c.desk.Alike c'.desk) (works : WorkAlike c.work c'.work) : Lockstep c c' c c' where
  asked := ⟨[], [], by simp, by simp, .nil⟩
  answers := ⟨[], by simp, by simp⟩
  desk := desks
  work := works

theorem trans (first : Lockstep c₀ c₀' c c') (second : Lockstep c c' d d') : Lockstep c₀ c₀' d d' where
  asked := by
    obtain ⟨early, early', same, same', alike⟩ := first.asked
    obtain ⟨late, late', same₁, same₁', alike₁⟩ := second.asked
    exact ⟨early ++ late, early' ++ late', by simp [same, same₁], by simp [same', same₁'], List.rel_append alike alike₁⟩
  answers := by
    obtain ⟨early, same, same'⟩ := first.answers
    obtain ⟨late, same₁, same₁'⟩ := second.answers
    exact ⟨early ++ late, by simp [same, same₁], by simp [same', same₁']⟩
  desk := second.desk
  work := second.work

theorem call (desks : c.desk.Alike c'.desk) (works : WorkAlike c.work c'.work) (ticket : Ticket) (x : Call) :
    Lockstep c c' (c.call ticket x) (c'.call ticket x) := by
  obtain ⟨desk, answers, begins⟩ := desks.call ticket x
  refine ⟨⟨⟨[], [], by simp [Course.call], by simp [Course.call], .nil⟩, _, rfl, ?_⟩, desk, begins.or works⟩
  rw [← answers]
  rfl

theorem proceed (desks : c.desk.Alike c'.desk) {f f' : Finding} (found : f.Alike f') :
    Lockstep c c' (c.proceed f) (c'.proceed f') := by
  obtain ⟨desk, answers, begins⟩ := desks.proceed found
  refine ⟨⟨⟨[], [], by simp [Course.proceed], by simp [Course.proceed], .nil⟩, _, rfl, ?_⟩, desk, begins⟩
  rw [← answers]
  rfl

theorem hear (desks : c.desk.Alike c'.desk) {rest rest' : Option (Dialogue Finding)} (works : WorkAlike rest rest')
    {q q' : Query} {r : q.Reply} {r' : q'.Reply} (alike : Asked.Alike ⟨q, r⟩ ⟨q', r'⟩) :
    Lockstep c c' (c.hear q r rest) (c'.hear q' r' rest') :=
  ⟨⟨⟨[_], [_], rfl, rfl, .cons alike .nil⟩, [], by simp [Course.hear], by simp [Course.hear]⟩, desks, works⟩

/-- The same happens to both. -/
theorem happen (desks : c.desk.Alike c'.desk) (works : WorkAlike c.work c'.work) (h : Happening) :
    Lockstep c c' (c.happen h) (c'.happen h) := by
  have stays := here desks works
  cases h with
  | call ticket x => exact call desks works ticket x
  | hear reply =>
    simp only [Course.happen]
    generalize c.work = work, c'.work = work' at works
    cases works with
    | none => exact stays
    | some alike =>
      cases alike with
      | done found => exact stays
      | ask q alike => exact hear desks (.some (alike (reply q))) (.same _)
      | result p output alike => exact hear desks (.some (alike _)) (.result p output)
  | proceed =>
    simp only [Course.happen]
    generalize c.work = work, c'.work = work' at works
    cases works with
    | none => exact stays
    | some alike =>
      cases alike with
      | done found => exact proceed desks found
      | ask q alike => exact stays
      | result p output alike => exact stays
  | look running =>
    have holder : c'.desk.holder = c.desk.holder := by
      obtain ⟨engine, noted, -, same⟩ := desks
      rw [same]
    simp only [Course.happen, holder]
    split
    · exact hear desks works (.same _)
    · exact stays

/-- Whatever happens later, courses stay in lockstep. -/
theorem after (lockstep : Lockstep c₀ c₀' c c') (later : List Happening) :
    Lockstep c₀ c₀' (c.after later) (c'.after later) := by
  induction later generalizing c c' with
  | nil => exact lockstep
  | cons h rest ih => exact ih (lockstep.trans (happen lockstep.desk lockstep.work h))

end Lockstep

theorem goOnAlike (desks : c.desk.Alike c'.desk) (works : WorkAlike c.work c'.work) : GoOnAlike c c' := by
  intro later
  have lockstep := (Lockstep.here desks works).after later
  exact ⟨lockstep.toAlikeSince, lockstep.desk.shows⟩

end Course
end Frontier
