import Frontier.Engine.Perform

/-!
# The desk

The desk is where hosts call. It lets one call at a time hold the engine and turns further intents away, but
takes every document update: an edit inside the verified region is kept in the inbox, merged with those before
it, and retracted by the call that holds the engine before it lets go. Calls that wait for the engine get it in
the order in which they came.

A call that holds the engine runs through phases. In each one it waits for the end of one dialogue; between
them nothing else can happen.
-/

namespace Frontier

/-- A call of a host. -/
inductive Call where
  /-- The document has a new version; the first changed byte, if it came from an edit. -/
  | update (document : String) (version : Int) (edit : Option Nat)
  | intent (i : Intent)
  /-- What does the undo log show? Waits for the engine. -/
  | snapshot
  /-- Stop the prover for good. Waits for the engine. -/
  | shutdown
  deriving DecidableEq, Repr, Inhabited

/-- What a call returns. -/
inductive Answer where
  /-- The outcome of the retraction that an update led to. -/
  | updated (retraction : Option Outcome)
  | outcome (o : Outcome)
  | snapshot (s : UndoLog.Snapshot)
  | shutDown
  deriving DecidableEq, Repr, Inhabited

/-- Updates that the engine has not seen yet. -/
structure Inbox where
  document : Option (String × Int) := none
  /-- The first byte that edits have changed. -/
  edit : Option Nat := none
  deriving DecidableEq, Repr, Inhabited

/-- Adds an update. The latest document counts, and the smallest edit. -/
def Inbox.add (b : Inbox) (document : String) (version : Int) (edit : Option Nat) : Inbox :=
  ⟨some (document, version), match edit, b.edit with
    | some new, some old => some (min old new)
    | some new, none => some new
    | none, old => old⟩

/-- What the call that holds the engine is doing. -/
inductive Phase where
  /-- Retracting for edits that came before the intent. -/
  | opening (i : Intent)
  /-- Carrying out an intent. -/
  | acting
  /-- Retracting for edits that came during the intent. -/
  | closing (o : Outcome)
  /-- Retracting for an update. -/
  | settling
  /-- Stopping the prover. -/
  | stopping
  /-- Noting the status, with the answer ready. -/
  | recording (a : Answer)
  deriving DecidableEq, Repr, Inhabited

/-- How many phases may still follow a phase if nothing else happens. -/
def Phase.rank : Phase → Nat
  | .opening _ => 5
  | .settling => 4
  | .acting => 4
  | .closing _ => 3
  | .stopping => 2
  | .recording _ => 1

/-- What comes out of the dialogue of a phase. -/
inductive Finding where
  | performed (o : Outcome) (e : Engine)
  | stopped (e : Engine)
  | status (s : Status)

/-- Calls are told apart by numbers. -/
abbrev Ticket := Nat

/-- The desk of one engine. -/
structure Desk where
  engine : Engine
  inbox : Inbox := {}
  /-- The status as last noted, with the activity since then. -/
  noted : Status
  /-- The end of the verified region as last noted. -/
  offset : Nat := 0
  /-- The call that holds the engine, and its phase. -/
  holder : Option (Ticket × Phase) := none
  /-- The calls that wait for the engine; `true` marks one that will stop the prover. -/
  waiting : List (Ticket × Bool) := []

/-- What the desk does next: answers that are given out, and the dialogue of the next phase. -/
structure Move where
  desk : Desk
  answers : List (Ticket × Answer) := []
  work : Option (Dialogue Finding) := none

namespace Desk

/-- The desk of a new engine, with no process. -/
def ofSettings (s : Settings) : Except Fault Desk :=
  (Engine.ofSettings s).map fun engine =>
    { engine, noted := ⟨engine.activity, engine.offset, engine.proved, engine.undo.valid, false⟩ }

/-- Gives the engine the document in the inbox. -/
def takeDocument (d : Desk) : Desk :=
  match d.inbox.document with
  | some (document, version) =>
    { d with inbox.document := none, engine := d.engine.setDocument document version }
  | none => d

/-- Begins a phase that carries out an intent, and notes what is going on. -/
def perform (d : Desk) (ticket : Ticket) (phase : Phase) (i : Intent) : Move where
  desk := { d with holder := some (ticket, phase), noted.activity := i.activity }
  work := some do
    let (o, e) ← d.engine.perform i
    return .performed o e

/-- Notes the status, as the last phase of a call. -/
def wrapUp (d : Desk) (ticket : Ticket) (a : Answer) : Move where
  desk := { d with holder := some (ticket, .recording a) }
  work := some do return .status (← d.engine.status)

/-- Takes an edit from the inbox. If it lies in the verified region, the phase is one that retracts it. -/
def drain (d : Desk) (ticket : Ticket) (phase : Phase) (otherwise : Desk → Move) : Move :=
  match d.inbox.edit with
  | none => otherwise d
  | some edit =>
    let d := { d with inbox.edit := none }.takeDocument
    if edit < d.engine.offset then d.perform ticket phase (.retract edit) else otherwise d

/-- Begins to stop the prover. -/
def stop (d : Desk) (ticket : Ticket) (answers : List (Ticket × Answer)) : Move where
  desk := { d with holder := some (ticket, .stopping) }
  answers
  work := some do return .stopped (← d.engine.shutdown)

/-- Gives the engine to the calls that wait, up to the first that keeps it. -/
def release (d : Desk) (answers : List (Ticket × Answer)) : List (Ticket × Bool) → Move
  | [] => { desk := { d with holder := none, waiting := [] }, answers }
  | (ticket, false) :: rest => d.release (answers ++ [(ticket, .snapshot d.engine.undo.snapshot)]) rest
  | (ticket, true) :: rest => ({ d with waiting := rest } : Desk).stop ticket answers

/-- Takes a call. -/
def call (d : Desk) (ticket : Ticket) : Call → Move
  | .update document version edit =>
    let d := { d with inbox := d.inbox.add document version edit }
    if d.holder.isSome then { desk := d, answers := [(ticket, .updated none)] }
    else d.takeDocument.drain ticket .settling fun d => d.wrapUp ticket (.updated none)
  | .intent i =>
    if d.holder.isSome then { desk := d, answers := [(ticket, .outcome .busy)] }
    else d.takeDocument.drain ticket (.opening i) fun d => d.perform ticket .acting i
  | .snapshot =>
    if d.holder.isSome then { desk := { d with waiting := d.waiting ++ [(ticket, false)] } }
    else { desk := d, answers := [(ticket, .snapshot d.engine.undo.snapshot)] }
  | .shutdown =>
    if d.holder.isSome then { desk := { d with waiting := d.waiting ++ [(ticket, true)] } }
    else d.stop ticket []

/-- Goes on when the dialogue of a phase has ended. -/
def proceed (d : Desk) (f : Finding) : Move :=
  match d.holder, f with
  | some (ticket, .opening i), .performed _ engine =>
    ({ d with engine } : Desk).drain ticket (.opening i) fun d => d.perform ticket .acting i
  | some (ticket, .acting), .performed o engine =>
    ({ d with engine } : Desk).drain ticket (.closing o) fun d => d.wrapUp ticket (.outcome o)
  | some (ticket, .closing o), .performed retraction engine =>
    let o := { o with offset := retraction.offset }
    ({ d with engine } : Desk).drain ticket (.closing o) fun d => d.wrapUp ticket (.outcome o)
  | some (ticket, .settling), .performed retraction engine =>
    ({ d with engine } : Desk).drain ticket .settling fun d => d.wrapUp ticket (.updated (some retraction))
  | some (ticket, .stopping), .stopped engine => ({ d with engine } : Desk).wrapUp ticket .shutDown
  | some (ticket, .recording a), .status s =>
    ({ d with noted := s, offset := s.offset } : Desk).release [(ticket, a)] d.waiting
  | _, _ => { desk := d }

/-! ## Every call comes to an end -/

/-- How many phases may still follow if no further call comes. -/
def rank (d : Desk) : Nat :=
  10 * d.waiting.length + (d.holder.map fun h => h.2.rank).getD 0 + d.inbox.edit.isSome.toNat

theorem rank_of_holder {d : Desk} {ticket : Ticket} {phase : Phase} (held : d.holder = some (ticket, phase)) :
    d.rank = 10 * d.waiting.length + (phase.rank + d.inbox.edit.isSome.toNat) := by
  simp [rank, held, Nat.add_assoc]

theorem takeDocument_waiting (d : Desk) : d.takeDocument.waiting = d.waiting := by
  unfold takeDocument
  split <;> rfl

theorem takeDocument_edit (d : Desk) : d.takeDocument.inbox.edit = d.inbox.edit := by
  unfold takeDocument
  split <;> rfl

/-- Draining begins a phase with an empty inbox, or goes on with one. -/
theorem drain_rank {d : Desk} {ticket : Ticket} {phase : Phase} {otherwise : Desk → Move} {n : Nat}
    (next : ∀ d' : Desk, d'.waiting = d.waiting → d'.inbox.edit = none →
      (otherwise d').desk.rank < 10 * d.waiting.length + n)
    (edited : d.inbox.edit.isSome → phase.rank < n) :
    (d.drain ticket phase otherwise).desk.rank < 10 * d.waiting.length + n := by
  unfold drain
  split
  · next none => exact next d rfl none
  · next edit some =>
    dsimp only
    split
    · have := edited (by simp [some])
      simp only [perform, rank, takeDocument_waiting, takeDocument_edit, Option.map_some, Option.getD_some,
        Option.isSome_none, Bool.toNat_false]
      omega
    · exact next _ (takeDocument_waiting _) (by rw [takeDocument_edit])

theorem release_rank (d : Desk) (answers : List (Ticket × Answer)) (waiting : List (Ticket × Bool))
    (more : (d.release answers waiting).work.isSome) :
    (d.release answers waiting).desk.rank <
      10 * waiting.length + d.inbox.edit.isSome.toNat := by
  fun_induction release d answers waiting with
  | case1 => simp at more
  | case2 answers ticket rest ih =>
    have := ih more
    simp only [List.length_cons]
    omega
  | case3 answers ticket rest =>
    rw [rank_of_holder rfl]
    simp only [stop, Phase.rank, List.length_cons]
    omega

/-- Each phase that follows another one brings the end nearer. -/
theorem proceed_rank (d : Desk) (f : Finding) (more : (d.proceed f).work.isSome) :
    (d.proceed f).desk.rank < d.rank := by
  unfold proceed at more ⊢
  split at more
  case h_7 => simp at more
  case h_6 ticket a s held =>
    have := release_rank _ _ _ more
    rw [rank_of_holder held]
    simp only [Phase.rank] at this ⊢
    omega
  case h_5 ticket engine held =>
    rw [rank_of_holder held, rank_of_holder rfl]
    simp only [wrapUp, Phase.rank]
    omega
  all_goals
    next ticket _ _ held =>
    rw [rank_of_holder held]
    refine drain_rank (d := { d with engine := _ }) (fun d' w e => ?_) (fun h => ?_)
    · rw [rank_of_holder rfl]
      simp only [perform, wrapUp, Phase.rank, w, e, Option.isSome_none, Bool.toNat_false]
      omega
    · simp only at h; simp [Phase.rank, h]

end Desk
end Frontier
