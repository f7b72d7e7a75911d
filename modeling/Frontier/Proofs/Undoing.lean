import Frontier.Proofs.Retraction
import Frontier.Proofs.Stepping

/-!
# Undoing and recovering

A motion backward on an unchanged document is one undo command if the prover grants it. If not, a process is started
and verifies anew what is left. Both ways end alike; they differ in what is sent and started.
-/

namespace Frontier
open Ledger

namespace Engine

/-- An intent that goes back, and where it goes. -/
inductive GoesBack (e : Engine) : Intent → Nat → Prop
  | step (some : e.offset ≠ 0) : GoesBack e .stepBackward (e.outline.previousEnd e.offset)
  | cursor {cursor : Nat} (behind : e.outline.boundaryAt cursor < e.offset) :
    GoesBack e (.goToCursor cursor) (e.outline.boundaryAt cursor)

variable {doc : String} {e : Engine} {v : View} {i : Intent} {j k target : Nat}

theorem GoesBack.ends (back : e.GoesBack i target) (synced : Synced doc k e v) : ∃ j < k, target = endOf doc j := by
  cases back with
  | step some =>
    have more : k ≠ 0 := by
      rintro rfl
      exact some synced.offset
    exact ⟨k - 1, by omega, by rw [synced.offset, synced.toReads.previousEnd synced.bound]⟩
  | @cursor cursor behind =>
    obtain ⟨j, bound, same⟩ := synced.toReads.boundaryAt cursor
    rw [same, synced.offset] at behind
    exact ⟨j, (endOf_lt_iff bound synced.bound).mp behind, same⟩

theorem GoesBack.begun (back : e.GoesBack i target) (reads : Reads doc e) (i' : Intent) :
    (e.begun i').GoesBack i target := by
  have outline := reads.begun i'
  cases back with
  | step some =>
    rw [← outline]
    exact .step some
  | cursor behind =>
    rw [← outline] at behind ⊢
    exact .cursor behind

/-- An intent that goes back is a motion backward. -/
theorem GoesBack.acts (back : e.GoesBack i target) {post : Unit → Engine → View → Prop}
    {failed : Fault → Engine → View → Prop}
    (moves : ∀ activity, (backwardTo target).Leads contract post failed { e with activity } v) :
    (act i).Leads contract post failed e v := by
  cases back with
  | step some =>
    simp only [act, stepBackward, Act.leads_bind, Act.leads_get]
    rw [if_pos some]
    exact moves e.activity
  | cursor behind =>
    simp only [act, goToCursor, Act.leads_bind, Act.leads_get, behind, ↓reduceIte, Act.leads_modify]
    exact moves .retracting

/-- What comes of an intent that goes back is what comes of the motion backward. -/
theorem GoesBack.performs (back : e.GoesBack i (endOf doc j)) (at' : At doc k e v) {commands : List String}
    {starts : Nat}
    (moves : ∀ e₁, At doc k e₁ v → (backwardTo (endOf doc j)).Leads contract
      (fun _ e' v' => At doc j e' v' ∧ v.Traffic commands starts v') (fun _ _ _ => False) e₁ v) :
    (e.perform i).Leads contract
      (fun p v' => p.1 = .done (endOf doc j) ∧ At doc j p.2 v' ∧ v.Traffic commands starts v') v := by
  apply performing_leads (World.contract_quiet view) i fun o e' v' =>
    o = .done (endOf doc j) ∧ At doc j e' v' ∧ v.Traffic commands starts v'
  have begun := at'.begun i
  refine ((back.begun at'.toReads i).acts fun activity => moves _ (begun.noted activity _)).mono ?_
    (fun _ _ _ absurd => absurd.elim)
  rintro _ e' v' ⟨at'', traffic⟩
  exact ⟨by rw [at''.offset], at''.noted _ _, traffic⟩

end Engine

namespace Bench

/-- The bench after its prover was told to refuse undo commands, or to grant them. -/
def refusing (b : Bench Ledger) (refuses : Bool) : Bench Ledger := b.play [.rejectUndo refuses]

/-- A motion ended at a target: the process has accepted the statements up to it, and these commands were sent and so
many processes started. -/
structure GoneBack (document : String) (target : Nat) (b b' : Bench Ledger) (o : Outcome) (commands : List String)
    (starts : Nat) : Prop where
  done : o = .done target
  offset : b'.desk.engine.offset = target
  accepted : b'.world.prover.accepted = (endingBy document target).map (·.text)
  sent : b'.world.prover.echo.sent = b.world.prover.echo.sent ++ commands
  starts : b'.world.prover.echo.starts = b.world.prover.echo.starts + starts

variable {document : String} {b : Bench Ledger} {i : Intent} {j k : Nat}

theorem refusing_same (idle : b.Idle) (refuses : Bool) :
    (b.refusing refuses).Idle ∧ (b.refusing refuses).desk.engine = b.desk.engine ∧
      view (b.refusing refuses).world.prover = { view b.world.prover with rejectsUndo := refuses } :=
  step_meddle idle fun _ l => { l with echo := { l.echo with rejectsUndo := refuses } }

/-- What comes of an intent that goes back, as the prover grants or refuses undo commands. -/
theorem goes_back (idle : b.Idle) (at' : b.desk.engine.At document k (view b.world.prover)) (le : j ≤ k)
    (back : b.desk.engine.GoesBack i (endOf document j)) (refuses : Bool) {commands : List String} {starts : Nat}
    (moves : ∀ e v, Engine.At document k e v → v.rejectsUndo = refuses →
      (Engine.backwardTo (endOf document j)).Leads contract
        (fun _ e' v' => Engine.At document j e' v' ∧ v.Traffic commands starts v') (fun _ _ _ => False) e v) :
    ∃ o, (b.refusing refuses).answerTo i = some (.outcome o) ∧
      Arrives document j o ((b.refusing refuses).after i).desk.engine
        (view ((b.refusing refuses).after i).world.prover) ∧
      GoneBack document (endOf document j) b ((b.refusing refuses).after i) o commands starts := by
  obtain ⟨idle', engine, same⟩ := refusing_same idle refuses
  have told : (b.refusing refuses).desk.engine.At document k (view (b.refusing refuses).world.prover) := by
    rw [engine, same]
    exact { at' with }
  rw [← engine] at back
  obtain ⟨o, answered, -, done, ended, traffic⟩ :=
    step_intent idle' i (back.performs told fun e at₁ => moves e _ at₁ (by rw [same]))
  rw [same] at traffic
  have kept := Engine.endingBy_endOf (Nat.le_trans le at'.bound)
  exact ⟨o, answered, .reached done ended,
    { done, offset := ended.offset, accepted := by rw [kept]; exact ended.accepted, sent := traffic.sent,
      starts := traffic.starts }⟩

end Bench

/-- At the start of the document a step back is no motion: nothing is sent or started. -/
theorem step_back_at_start {document : String} (clear : Clear document) {version : Int} {b : Bench Ledger}
    (reached : b.Reached document version) (start : b.desk.engine.offset = 0) :
    b.answerTo .stepBackward = some (.outcome (.done 0)) ∧ (b.after .stepBackward).desk.engine.offset = 0 ∧
      view (b.after .stepBackward).world.prover = view b.world.prover := by
  obtain ⟨k, idle, -⟩ := reached.rests clear
  have performs : (b.desk.engine.perform .stepBackward).Leads contract
      (fun p v' => p.1 = .done 0 ∧ p.2.offset = 0 ∧ v' = view b.world.prover) (view b.world.prover) := by
    apply Engine.performing_leads (World.contract_quiet view) .stepBackward fun o e' v' =>
      o = .done 0 ∧ e'.offset = 0 ∧ v' = view b.world.prover
    have start' : (b.desk.engine.begun .stepBackward).offset = 0 := start
    simp only [Engine.act, Engine.stepBackward, Act.leads_bind, Act.leads_get, start', ne_eq, not_true_eq_false,
      ↓reduceIte, Act.leads_pure]
    exact ⟨trivial, start, trivial⟩
  obtain ⟨o, answered, -, rfl, ended, same⟩ := Bench.step_intent idle .stepBackward performs
  exact ⟨answered, ended, same⟩

/-- A motion backward ends alike whether the prover grants its undo command or refuses it. Granted, it is this one
command; refused, a process is started and given the statements up to the target. -/
theorem undo_like_recovery {document : String} (clear : Clear document) {version : Int} {b : Bench Ledger}
    (reached : b.Reached document version) (runs : b.world.prover.echo.running = true) {i : Intent} {target : Nat}
    (back : b.desk.engine.GoesBack i target) :
    ∃ o o', (b.refusing false).answerTo i = some (.outcome o) ∧ (b.refusing true).answerTo i = some (.outcome o') ∧
      Bench.Alike ((b.refusing false).after i) ((b.refusing true).after i) o o' ∧
      Bench.GoneBack document target b ((b.refusing false).after i) o
        [Rules.standard.undo (endingBy document target).length] 0 ∧
      Bench.GoneBack document target b ((b.refusing true).after i) o'
        (Rules.standard.undo (endingBy document target).length :: Engine.replayed (endingBy document target)) 1 := by
  -- A process that runs is in step, so that its log is in order and its gate open.
  obtain ⟨k, idle, at' | away⟩ := reached.rests clear
  · obtain ⟨j, lt, rfl⟩ := back.ends (.inl at')
    have bound : j ≤ (Statement.all document).length := Nat.le_trans (Nat.le_of_lt lt) at'.bound
    rw [Engine.endingBy_endOf bound, List.length_take, Nat.min_eq_left bound]
    obtain ⟨o, answered, arrives, gone⟩ := Bench.goes_back idle at' (Nat.le_of_lt lt) back false
      fun e v at₁ granted => Engine.backwardTo_granted clear at₁ lt granted
    obtain ⟨o', answered', arrives', gone'⟩ := Bench.goes_back idle at' (Nat.le_of_lt lt) back true
      fun e v at₁ refused => Engine.backwardTo_refused clear at₁ lt refused
    exact ⟨o, o', answered, answered', arrives.alike arrives', gone, gone'⟩
  · have dead : b.world.prover.echo.running = false := away.dead
    simp [dead] at runs

/-- A step back over a batch: one undo, or an undo, a start and the first statement. -/
theorem two_statements_undone : ∃ b : Bench Ledger, b.Reached "a. b." 1 ∧ b.world.prover.echo.running = true ∧
    b.desk.engine.GoesBack .stepBackward 2 ∧ ((b.refusing true).after .stepBackward).world.prover.echo.sent =
      ["a.\nb.", "undo 1.", "a."] ∧
      ∃ o o', (b.refusing false).answerTo .stepBackward = some (.outcome o) ∧
        (b.refusing true).answerTo .stepBackward = some (.outcome o') ∧
        Bench.Alike ((b.refusing false).after .stepBackward) ((b.refusing true).after .stepBackward) o o' ∧
        Bench.GoneBack "a. b." 2 b ((b.refusing false).after .stepBackward) o
          [Rules.standard.undo (endingBy "a. b." 2).length] 0 ∧
        Bench.GoneBack "a. b." 2 b ((b.refusing true).after .stepBackward) o'
          (Rules.standard.undo (endingBy "a. b." 2).length :: Engine.replayed (endingBy "a. b." 2)) 1 := by
  have reached : ((Bench.opened .standard "a. b." 1).play [.intent (.goToCursor 5)]).Reached "a. b." 1 :=
    ⟨.standard, _, Desk.ofSettings_default, rfl⟩
  have back : ((Bench.opened .standard "a. b." 1).play [.intent (.goToCursor 5)]).desk.engine.GoesBack
      .stepBackward 2 := by
    have target : ((Bench.opened .standard "a. b." 1).play [.intent (.goToCursor 5)]).desk.engine.outline.previousEnd
        ((Bench.opened .standard "a. b." 1).play [.intent (.goToCursor 5)]).desk.engine.offset = 2 := by
      decide +kernel
    rw [← target]
    exact .step (by decide +kernel)
  exact ⟨_, reached, by decide +kernel, back, by decide +kernel,
    undo_like_recovery two_statements_clear reached (by decide +kernel) back⟩

/-- A statement that the prover accepted inside a batch may be an undo to it when it is sent alone, in a recovery. -/
theorem vertical_tab_undo_unlike_recovery : ¬ ∀ (document : String) (version : Int) (b : Bench Ledger) (i : Intent)
    (target : Nat), (∀ s ∈ Statement.all document, ¬ "undo ".toList <+: s.text.toList ∧ '[' ∉ s.text.toList) →
      b.Reached document version → b.world.prover.echo.running = true → b.desk.engine.undo.valid = true →
        b.desk.engine.inFlight = false → b.desk.engine.GoesBack i target →
          ∃ o, (b.refusing true).answerTo i = some (.outcome o) ∧ o.success = true := by
  intro all
  have reached : ((Bench.opened .standard "\x0bundo 0. b." 1).play [.intent (.goToCursor 11)]).Reached
      "\x0bundo 0. b." 1 := ⟨.standard, _, Desk.ofSettings_default, rfl⟩
  obtain ⟨o, answered, succeeds⟩ := all _ _ _ .stepBackward _ (by decide +kernel) reached (by decide +kernel)
    (by decide +kernel) (by decide +kernel) (.step (by decide +kernel))
  have fails : (((Bench.opened .standard "\x0bundo 0. b." 1).play [.intent (.goToCursor 11)]).refusing true).answerTo
      .stepBackward = some (.outcome (.failure "[error-0-0-0-4]cannot undo to 0" 0)) := by decide +kernel
  obtain rfl := Answer.outcome.inj (Option.some.inj (fails.symm.trans answered))
  cases succeeds

end Frontier
