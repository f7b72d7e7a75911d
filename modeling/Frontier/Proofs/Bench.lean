import Frontier.Bench.Basic
import Frontier.Proofs.Listening

/-!
# Calls on a bench

A call to a free desk runs to its end before anything else happens. What comes of it on a bench with a ledger is what
its operation leads to.
-/

namespace Frontier.Bench
open Ledger

/-- No call is in progress, and no update waits. -/
structure Idle (b : Bench Ledger) : Prop where
  free : b.desk.holder = none
  alone : b.desk.waiting = []
  inbox : b.desk.inbox = {}
  job : b.job = none

/-- The status of an engine, as it is noted. -/
def seen (e : Engine) (running : Bool) : Status :=
  ⟨e.activity, e.offset, e.proved, e.undo.valid, running && !e.inFlight⟩

/-- A desk after a call. -/
def rested (d : Desk) (running : Bool) : Desk :=
  { d with holder := none, waiting := [], noted := seen d.engine running, offset := d.engine.offset }

variable {b : Bench Ledger} {ticket : Ticket}

/-- The last phase of a call. -/
theorem drive_wrapUp (b : Bench Ledger) {d : Desk} (alone : d.waiting = []) (ticket : Ticket) (a : Answer)
    (limit : Option Nat) : b.drive limit (d.wrapUp ticket a) =
      { b with desk := rested d b.world.prover.echo.running, answers := b.answers ++ [(ticket, a)], job := none } := by
  have runs : b.world.run limit (do return Finding.status (← d.engine.status)) =
      (b.world, .inl (.status (seen d.engine b.world.prover.echo.running))) := rfl
  unfold drive
  simp only [Desk.wrapUp, runs, Desk.proceed, alone, Desk.release, Option.isSome_none, Bool.false_eq_true, ↓reduceDIte,
    List.append_nil]
  rfl

/-- A phase that is followed by the last one. -/
theorem drive_then (b : Bench Ledger) {m : Move} {work : Dialogue Finding} {w : World Ledger} {f : Finding} {d : Desk}
    {a : Answer} (works : m.work = some work) (runs : b.world.run none work = (w, .inl f))
    (next : m.desk.proceed f = d.wrapUp ticket a) (silent : m.answers = []) (alone : d.waiting = []) :
    b.drive none m =
      { b with
        world := w, desk := rested d w.prover.echo.running, answers := b.answers ++ [(ticket, a)], job := none } := by
  rw [drive]
  simp only [works, runs, next, silent, List.append_nil]
  simp only [Desk.wrapUp, Option.isSome_some, ↓reduceDIte]
  exact drive_wrapUp { b with world := w, desk := m.desk, job := none } alone ticket a none

/-! ## Steps -/

/-- The world of a bench after a step. -/
def settled (w : World Ledger) : World Ledger := (w.instruct Prover.notice).forward

theorem view_settled (w : World Ledger) : view (settled w).prover = view w.prover := rfl

theorem step_call (b : Bench Ledger) (c : Call) (b' : Bench Ledger)
    (calls : ({ b with answers := [] } : Bench Ledger).call none mainTicket c = b') (job : b'.job = none) :
    b.step (.call c) [] = ({ b' with world := settled b'.world }, b'.answer? mainTicket, []) := by
  simp only [step, List.head?_nil, Option.map_none, calls, enterAll, goOn, job]
  rfl

/-- What comes of a call that takes one phase and the last one. -/
theorem step_drive (post : Answer → Engine → View → Prop) {c : Call} {m : Move} {work : Dialogue Finding}
    (calls : b.desk.call mainTicket c = m) (works : m.work = some work) (silent : m.answers = [])
    (leads : work.Leads contract (fun f v => ∃ (d : Desk) (a : Answer), m.desk.proceed f = d.wrapUp mainTicket a ∧
      d.waiting = [] ∧ d.inbox = {} ∧ post a d.engine v) (view b.world.prover)) :
    ∃ a, (b.step (.call c) []).2.1 = some a ∧ (b.step (.call c) []).1.Idle ∧
      post a (b.step (.call c) []).1.desk.engine (view (b.step (.call c) []).1.world.prover) := by
  obtain ⟨w, f, runs, d, a, proceeds, alone, inbox, holds⟩ := World.run_leads leads
  have drives : ({ b with answers := [] } : Bench Ledger).call none mainTicket c =
      { b with
        world := w, desk := rested d w.prover.echo.running, answers := [] ++ [(mainTicket, a)], job := none } := by
    simp only [call, calls, works, Option.isSome_some, ↓reduceIte]
    exact drive_then { b with answers := [] } works runs proceeds silent alone
  rw [step_call b c _ drives rfl]
  exact ⟨a, rfl, ⟨rfl, rfl, inbox, rfl⟩, holds⟩

/-- The desk of a free bench has nothing in its inbox. -/
theorem drain_nothing {d : Desk} (inbox : d.inbox = {}) (phase : Phase) (otherwise : Desk → Move) :
    d.drain ticket phase otherwise = otherwise d := by
  simp only [Desk.drain, inbox]

theorem takeDocument_nothing {d : Desk} (inbox : d.inbox = {}) : d.takeDocument = d := by
  simp only [Desk.takeDocument, inbox]

theorem proceed_acting {d : Desk} (inbox : d.inbox = {}) (ticket : Ticket) (i : Intent) (o : Outcome) (e : Engine) :
    (d.perform ticket .acting i).desk.proceed (.performed o e) =
      ({ (d.perform ticket .acting i).desk with engine := e } : Desk).wrapUp ticket (.outcome o) := by
  have inbox : ({ (d.perform ticket .acting i).desk with engine := e } : Desk).inbox = {} := inbox
  exact drain_nothing inbox (.closing o) fun d => d.wrapUp ticket (.outcome o)

theorem proceed_settling {d : Desk} (inbox : d.inbox = {}) (ticket : Ticket) (i : Intent) (o : Outcome) (e : Engine) :
    (d.perform ticket .settling i).desk.proceed (.performed o e) =
      ({ (d.perform ticket .settling i).desk with engine := e } : Desk).wrapUp ticket (.updated (some o)) := by
  have inbox : ({ (d.perform ticket .settling i).desk with engine := e } : Desk).inbox = {} := inbox
  exact drain_nothing inbox .settling fun d => d.wrapUp ticket (.updated (some o))

theorem call_intent (idle : b.Idle) (ticket : Ticket) (i : Intent) :
    b.desk.call ticket (.intent i) = b.desk.perform ticket .acting i := by
  simp only [Desk.call, idle.free, Option.isSome_none, Bool.false_eq_true, ↓reduceIte,
    takeDocument_nothing idle.inbox, drain_nothing idle.inbox]

/-- A call that carries out an intent. -/
theorem step_intent (idle : b.Idle) (i : Intent) {post : Outcome × Engine → View → Prop}
    (performs : (b.desk.engine.perform i).Leads contract post (view b.world.prover)) :
    ∃ o, (b.step (.call (.intent i)) []).2.1 = some (.outcome o) ∧ (b.step (.call (.intent i)) []).1.Idle ∧
      post (o, (b.step (.call (.intent i)) []).1.desk.engine)
        (view (b.step (.call (.intent i)) []).1.world.prover) := by
  have next := proceed_acting idle.inbox mainTicket i
  obtain ⟨_, answer, idle', o, rfl, holds⟩ := step_drive (fun a e v => ∃ o, a = .outcome o ∧ post (o, e) v)
    (call_intent idle mainTicket i) rfl rfl (by
      rw [Dialogue.leads_bind]
      exact performs.mono fun p v holds => ⟨_, _, next p.1 p.2, idle.alone, idle.inbox, p.1, rfl, holds⟩)
  exact ⟨o, answer, idle', holds⟩

/-- A call that stops the prover for good. -/
theorem step_shutdown (idle : b.Idle) {post : Engine → View → Prop}
    (stops : b.desk.engine.shutdown.Leads contract post (view b.world.prover)) :
    (b.step (.call .shutdown) []).1.Idle ∧
      post (b.step (.call .shutdown) []).1.desk.engine (view (b.step (.call .shutdown) []).1.world.prover) := by
  have calls : b.desk.call mainTicket .shutdown = b.desk.stop mainTicket [] := by
    simp only [Desk.call, idle.free, Option.isSome_none, Bool.false_eq_true, ↓reduceIte]
  obtain ⟨_, -, idle', holds⟩ := step_drive (fun _ e v => post e v) calls rfl rfl (by
    rw [Dialogue.leads_bind]
    refine stops.mono fun e v holds => ⟨{ (b.desk.stop mainTicket []).desk with engine := e }, .shutDown, rfl, ?_⟩
    exact ⟨idle.alone, idle.inbox, holds⟩)
  exact ⟨idle', holds⟩

/-- An update outside the verified region. -/
theorem step_behind (idle : b.Idle) (document : String) (version : Int) {edit : Option Nat}
    (behind : ∀ first ∈ edit, b.desk.engine.offset ≤ first) :
    (b.step (.call (.update document version edit)) []).1.Idle ∧
      (b.step (.call (.update document version edit)) []).1.desk.engine = b.desk.engine.setDocument document version ∧
        view (b.step (.call (.update document version edit)) []).1.world.prover = view b.world.prover := by
  have calls : b.desk.call mainTicket (.update document version edit) =
      ({ b.desk with engine := b.desk.engine.setDocument document version } : Desk).wrapUp mainTicket
        (.updated none) := by
    cases edit with
    | none =>
      simp only [Desk.call, idle.free, Option.isSome_none, Bool.false_eq_true, ↓reduceIte, Inbox.add,
        Desk.takeDocument, Desk.drain, idle.inbox]
    | some first =>
      have outside : ¬ first < (b.desk.engine.setDocument document version).offset := Nat.not_lt.mpr (behind first rfl)
      simp only [Desk.call, idle.free, Option.isSome_none, Bool.false_eq_true, ↓reduceIte, Inbox.add,
        Desk.takeDocument, Desk.drain, idle.inbox, outside]
  have drives := drive_wrapUp ({ b with answers := [] } : Bench Ledger)
    (show ({ b.desk with engine := b.desk.engine.setDocument document version } : Desk).waiting = [] from idle.alone)
    mainTicket (.updated none) none
  rw [step_call b _ _ (by simp only [call, calls]; exact drives) rfl]
  exact ⟨⟨rfl, rfl, idle.inbox, rfl⟩, rfl, rfl⟩

/-- An update that is not an edit. -/
theorem step_update (idle : b.Idle) (document : String) (version : Int) :
    (b.step (.call (.update document version none)) []).1.Idle ∧
      (b.step (.call (.update document version none)) []).1.desk.engine = b.desk.engine.setDocument document version ∧
        view (b.step (.call (.update document version none)) []).1.world.prover = view b.world.prover :=
  step_behind idle document version (by simp)

/-- An update inside the verified region. -/
theorem step_edit (idle : b.Idle) {document : String} {version : Int} {edit : Nat}
    (inside : edit < b.desk.engine.offset) {post : Outcome × Engine → View → Prop}
    (performs : ((b.desk.engine.setDocument document version).perform (.retract edit)).Leads contract post
      (view b.world.prover)) :
    ∃ o, (b.step (.call (.update document version (some edit))) []).2.1 = some (.updated (some o)) ∧
      (b.step (.call (.update document version (some edit))) []).1.Idle ∧
        post (o, (b.step (.call (.update document version (some edit))) []).1.desk.engine)
          (view (b.step (.call (.update document version (some edit))) []).1.world.prover) := by
  have inside : edit < (b.desk.engine.setDocument document version).offset := inside
  have calls : b.desk.call mainTicket (.update document version (some edit)) =
      ({ b.desk with engine := b.desk.engine.setDocument document version } : Desk).perform mainTicket .settling
        (.retract edit) := by
    simp only [Desk.call, idle.free, Option.isSome_none, Bool.false_eq_true, ↓reduceIte, Inbox.add, Desk.takeDocument,
      Desk.drain, idle.inbox, inside]
  have next := proceed_settling
    (show ({ b.desk with engine := b.desk.engine.setDocument document version } : Desk).inbox = {} from idle.inbox)
    mainTicket (.retract edit)
  obtain ⟨_, answer, idle', o, rfl, holds⟩ := step_drive (fun a e v => ∃ o, a = .updated (some o) ∧ post (o, e) v)
    calls rfl rfl (by
      rw [Dialogue.leads_bind]
      exact performs.mono fun p v holds => ⟨_, _, next p.1 p.2, idle.alone, idle.inbox, p.1, rfl, holds⟩)
  exact ⟨o, answer, idle', holds⟩

/-- Something is done to the prover from outside. -/
theorem step_meddle (idle : b.Idle) (f : Nat → Ledger → Ledger) :
    (b.step (.meddle f) []).1.Idle ∧ (b.step (.meddle f) []).1.desk.engine = b.desk.engine ∧
      view (b.step (.meddle f) []).1.world.prover = view (f b.world.clock b.world.prover) := by
  simp only [step, enterAll, goOn, idle.job]
  exact ⟨⟨idle.free, idle.alone, idle.inbox, rfl⟩, trivial, rfl⟩

/-- Time passes. -/
theorem step_wait (idle : b.Idle) (ms : Nat) :
    (b.step (.wait ms) []).1.Idle ∧ (b.step (.wait ms) []).1.desk.engine = b.desk.engine ∧
      view (b.step (.wait ms) []).1.world.prover = view b.world.prover := by
  simp only [step, enterAll, goOn, idle.job]
  obtain ⟨notices, same⟩ := passTo_prover b.world (b.world.clock + ms)
  refine ⟨⟨idle.free, idle.alone, idle.inbox, rfl⟩, trivial, ?_⟩
  rw [← settled, view_settled, same]
  rfl

end Frontier.Bench
