import Frontier.Proofs.Bench
import Frontier.Proofs.Motion

/-!
# Synchrony

A host works on one document while the echo prover may be killed at any time, refuse to undo, or start lazily. After
every call the engine's account of the document is right, and a process that runs has accepted just what the engine
holds for verified.
-/

namespace Frontier
open Ledger

/-- What happens next: a call of the host, or something outside. -/
inductive Turn where
  | intent (i : Intent)
  | shutdown
  /-- The process is killed. -/
  | crash (code : Int)
  /-- From now on undo commands are rejected, or accepted again. -/
  | rejectUndo (rejects : Bool)
  /-- From now on the startup prompt is printed after a start, or before its end. -/
  | lazyStart (lazy : Bool)
  | wait (ms : Nat)

/-- What is done in a turn. -/
def Turn.deed : Turn → Bench.Deed Ledger
  | .intent i => .call (.intent i)
  | .shutdown => .call .shutdown
  | .crash code => .meddle fun _ l => { l with echo := l.echo.crash code }
  | .rejectUndo rejects => .meddle fun _ l => { l with echo := { l.echo with rejectsUndo := rejects } }
  | .lazyStart lazy => .meddle fun _ l => { l with echo := { l.echo with lazy } }
  | .wait ms => .wait ms

namespace Bench

/-- Takes turns, one after the other. -/
def play (b : Bench Ledger) (turns : List Turn) : Bench Ledger := turns.foldl (fun b t => (b.step t.deed []).1) b

/-- A new desk is given a document. -/
def opened (d : Desk) (document : String) (version : Int) : Bench Ledger :=
  (({ world := { prover := {} }, desk := d } : Bench Ledger).step (.call (.update document version none)) []).1

/-- What may come of a document under the default settings. -/
def Reached (document : String) (version : Int) (b : Bench Ledger) : Prop :=
  ∃ d turns, Desk.ofSettings {} = .ok d ∧ b = (opened d document version).play turns

/-- The statements that end in the verified region. -/
def verified (document : String) (b : Bench Ledger) : List Statement :=
  (Statement.all document).filter (·.stop ≤ b.desk.engine.offset)

/-- The engine's account is right, and a process that can be used has accepted what it says. -/
structure InStep (document : String) (b : Bench Ledger) : Prop where
  boundary : b.desk.engine.offset = 0 ∨ ∃ s ∈ Statement.all document, s.stop = b.desk.engine.offset
  count : b.desk.engine.proved = (b.verified document).length
  states : b.world.prover.echo.running = true → b.desk.engine.inFlight = false →
    b.desk.engine.undo.valid = true ∧ b.world.prover.echo.id = b.desk.engine.proved ∧
      b.desk.engine.undo.current = b.desk.engine.proved ∧
        b.desk.engine.undo.before = List.range b.desk.engine.proved
  accepted : b.world.prover.echo.running = true → b.desk.engine.inFlight = false →
    b.world.prover.accepted = (b.verified document).map (·.text)

/-- Nothing is in progress, and engine and process are in step. -/
def Rests (document : String) (k : Nat) (b : Bench Ledger) : Prop :=
  b.Idle ∧ b.desk.engine.Synced document k (view b.world.prover)

variable {document : String} {version : Int} {b : Bench Ledger} {k : Nat}

theorem opened_rests {d : Desk} (made : Desk.ofSettings {} = .ok d) : (opened d document version).Rests document 0 := by
  obtain rfl := Except.ok.inj (Desk.ofSettings_default.symm.trans made)
  obtain ⟨idle, engine, same⟩ :=
    step_update (b := { world := { prover := {} }, desk := .standard }) ⟨rfl, rfl, rfl, rfl⟩ document version
  refine ⟨idle, .inr ?_⟩
  rw [opened, engine, same]
  exact { settings := rfl, rules := rfl, document := rfl, outline := rfl, bound := Nat.zero_le _,
          sound := fun t mem => by simp [textsTo] at mem, offset := rfl, proved := rfl, dead := rfl, free := rfl }

theorem turn_rests (clear : Clear document) (rests : b.Rests document k) (t : Turn) :
    ∃ j, (b.step t.deed []).1.Rests document j := by
  obtain ⟨idle, synced⟩ := rests
  cases t with
  | intent i =>
    obtain ⟨o, -, idle', j, synced'⟩ := step_intent idle i (Engine.perform_leads clear synced i)
    exact ⟨j, idle', synced'⟩
  | shutdown =>
    obtain ⟨idle', away⟩ := step_shutdown idle (Engine.shutdown_leads synced)
    exact ⟨k, idle', .inr away⟩
  | crash code =>
    obtain ⟨idle', engine, same⟩ := step_meddle idle fun _ l => { l with echo := l.echo.crash code }
    refine ⟨k, idle', .inr ?_⟩
    rw [Turn.deed, engine, same]
    exact { synced.toReads with
      bound := synced.bound, sound := synced.sound, offset := synced.offset, proved := synced.proved, dead := rfl,
      free := synced.free }
  | rejectUndo rejects =>
    obtain ⟨idle', engine, same⟩ :=
      step_meddle idle fun _ l => { l with echo := { l.echo with rejectsUndo := rejects } }
    refine ⟨k, idle', ?_⟩
    rw [Turn.deed, engine, same]
    exact synced.elim (fun at' => .inl { at' with }) (fun away => .inr { away with })
  | lazyStart lazy =>
    obtain ⟨idle', engine, same⟩ := step_meddle idle fun _ l => { l with echo := { l.echo with lazy } }
    refine ⟨k, idle', ?_⟩
    rw [Turn.deed, engine, same]
    exact synced.elim (fun at' => .inl { at' with }) (fun away => .inr { away with })
  | wait ms =>
    obtain ⟨idle', engine, same⟩ := step_wait idle ms
    refine ⟨k, idle', ?_⟩
    rw [Turn.deed, engine, same]
    exact synced

theorem play_rests (clear : Clear document) (rests : b.Rests document k) (turns : List Turn) :
    ∃ j, (b.play turns).Rests document j := by
  induction turns generalizing b k with
  | nil => exact ⟨k, rests⟩
  | cons t more ih =>
    obtain ⟨j, rests'⟩ := turn_rests clear rests t
    exact ih rests'

theorem Reached.rests (clear : Clear document) (reached : Reached document version b) : ∃ k, b.Rests document k := by
  obtain ⟨d, turns, made, rfl⟩ := reached
  exact play_rests clear (opened_rests made) turns

theorem Rests.verified (rests : b.Rests document k) : b.verified document = (Statement.all document).take k := by
  have upTo := rests.2.toReads.upTo rests.2.bound
  rw [rests.2.toReads.outline] at upTo
  rw [Bench.verified, rests.2.offset]
  exact upTo

theorem Rests.inStep (rests : b.Rests document k) : b.InStep document := by
  have bound := rests.2.bound
  have verified := rests.verified
  refine ⟨?_, ?_, ?_, ?_⟩
  · rw [rests.2.offset]
    cases k with
    | zero => exact .inl rfl
    | succ k =>
      have found := List.getElem?_eq_getElem bound
      exact .inr ⟨_, List.mem_of_getElem? found, (Engine.endOf_succ found).symm⟩
  · rw [verified, rests.2.proved, List.length_take, Nat.min_eq_left bound]
  · intro runs _
    rcases rests.2 with at' | away
    · rw [at'.proved]
      exact ⟨at'.log.valid, at'.id, at'.log.current, at'.log.before⟩
    · have dead : b.world.prover.echo.running = false := away.dead
      simp [dead] at runs
  · intro runs _
    rcases rests.2 with at' | away
    · rw [verified]
      exact at'.accepted
    · have dead : b.world.prover.echo.running = false := away.dead
      simp [dead] at runs

end Bench

/-- After every turn the engine and the echo prover are in step. -/
theorem prover_in_step {document : String} (clear : Clear document) {version : Int} {b : Bench Ledger}
    (reached : b.Reached document version) : b.InStep document := by
  obtain ⟨k, rests⟩ := reached.rests clear
  exact rests.inStep

theorem two_statements_clear : Clear "a. b." where
  noUndo := by decide +kernel
  plain := by decide +kernel
  fits := by decide +kernel

/-- A process that was killed is started anew by a step back, and is in step. -/
theorem restarted_prover_in_step : ∃ b : Bench Ledger, b.Reached "a. b." 1 ∧ b.world.prover.echo.running = true ∧
    b.desk.engine.inFlight = false ∧ b.world.prover.accepted = ["a."] ∧ b.InStep "a. b." := by
  have reached : ((Bench.opened .standard "a. b." 1).play
      [.intent (.goToCursor 5), .crash 9, .intent .stepBackward]).Reached "a. b." 1 :=
    ⟨.standard, _, Desk.ofSettings_default, rfl⟩
  exact ⟨_, reached, by decide +kernel, by decide +kernel, by decide +kernel,
    prover_in_step two_statements_clear reached⟩

/-- A statement that is not an undo to the scanner may be one to the prover, which trims more than the scanner skips. -/
theorem vertical_tab_not_in_step : ¬ ∀ (document : String) (version : Int) (b : Bench Ledger),
    (∀ s ∈ Statement.all document, ¬ "undo ".toList <+: s.text.toList ∧ '[' ∉ s.text.toList) →
      b.Reached document version → b.InStep document := by
  intro all
  have reached : ((Bench.opened .standard "\x0bundo 0." 1).play [.intent .stepForward]).Reached "\x0bundo 0." 1 :=
    ⟨.standard, _, Desk.ofSettings_default, rfl⟩
  obtain ⟨valid, -⟩ := (all _ _ _ (by decide +kernel) reached).states (by decide +kernel) (by decide +kernel)
  exact absurd valid (by decide +kernel)

end Frontier
