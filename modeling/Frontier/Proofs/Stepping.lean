import Frontier.Proofs.Synchrony

/-!
# One by one, or at once

Forward motion to a cursor sends its statements as one command and falls back on rewinding, starting anew and replaying
when the command is not accepted. Whatever way it takes, it ends where single steps end.
-/

namespace Frontier
open Ledger

namespace Bench

/-- The bench after an intent was carried out. -/
def after (b : Bench Ledger) (i : Intent) : Bench Ledger := (b.step (.call (.intent i)) []).1

/-- What an intent is answered. -/
def answerTo (b : Bench Ledger) (i : Intent) : Option Answer := (b.step (.call (.intent i)) []).2.1

/-- Steps forward until one fails or the target is reached: the bench and the last outcome then. -/
inductive Walk (target : Nat) : Bench Ledger → Bench Ledger → Outcome → Prop
  | stops {b : Bench Ledger} {o : Outcome} (steps : b.answerTo .stepForward = some (.outcome o))
    (ends : o.success = true → target ≤ (b.after .stepForward).desk.engine.offset) :
    Walk target b (b.after .stepForward) o
  | goes {b b' : Bench Ledger} {o o' : Outcome} (steps : b.answerTo .stepForward = some (.outcome o))
    (succeeds : o.success = true) (short : (b.after .stepForward).desk.engine.offset < target)
    (rest : Walk target (b.after .stepForward) b' o') : Walk target b b' o'

/-- Two motions end alike, as far as the host and the prover can tell. -/
structure Alike (b b' : Bench Ledger) (o o' : Outcome) : Prop where
  success : o.success = o'.success
  error : o.error = o'.error
  offset : b.desk.engine.offset = b'.desk.engine.offset
  proved : b.desk.engine.proved = b'.desk.engine.proved
  undo : b.desk.engine.undo.snapshot = b'.desk.engine.undo.snapshot
  id : b.world.prover.echo.id = b'.world.prover.echo.id
  running : b.world.prover.echo.running = b'.world.prover.echo.running

/-- The end of a motion to the end of the first `n` statements. -/
inductive Arrives (document : String) (n : Nat) (o : Outcome) (e : Engine) (v : View) : Prop
  | reached (done : o = .done (endOf document n)) (at' : e.At document n v)
  | stopped {k : Nat} {s : Statement} {fault : Fault} (lt : k < n) (found : (Statement.all document)[k]? = some s)
    (failed : o = .failure fault.message (endOf document k)) (stops : Engine.Stopped document k s fault e v)

end Bench

/-! ## Where a motion arrives -/

theorem UndoLog.Counts.snapshot {l : UndoLog} {k : Nat} (counts : l.Counts k) :
    l.snapshot = ⟨k, List.range k, true, none⟩ := by
  rw [UndoLog.snapshot, counts.current, counts.before, counts.valid, counts.order]
  rfl

namespace Engine

theorem Fallen.snapshot {document : String} {k : Nat} {e : Engine} {v : View} (fallen : Fallen document k e v) :
    e.undo.snapshot = ⟨k, List.range k, false, some (Disorder.positionLost death.message).message⟩ := by
  rw [UndoLog.snapshot, fallen.current, fallen.before, UndoLog.valid, fallen.disorder]
  rfl

variable {document : String} {e : Engine} {v : View} {k n : Nat} {s : Statement} {fault : Fault}

theorem Stopped.noted (stopped : Stopped document k s fault e v) (activity : Activity) (transactions : TransactionLog) :
    Stopped document k s fault { e with activity, transactions } v := by
  cases stopped with
  | crashes dies fallen id => exact .crashes dies { fallen with } id
  | fails lives bad holds => exact .fails lives bad (holds.noted _ _)

theorem Stopped.synced (stopped : Stopped document k s fault e v) : Synced document k e v := by
  cases stopped with
  | crashes dies fallen id => exact .inr fallen.toAway
  | fails lives bad holds => exact .inl holds

theorem Stopped.unsound (stopped : Stopped document k s fault e v) : Echo.sound s.text = false := by
  cases stopped with
  | crashes dies fallen id => simp [Echo.sound, dies]
  | fails lives bad holds => simp [Echo.sound, bad]

theorem forward_arrives (clear : Clear document) (synced : Synced document k e v)
    (found : (Statement.all document)[k]? = some s) :
    (e.perform .stepForward).Leads contract (fun p v => Bench.Arrives document (k + 1) p.1 p.2 v) v := by
  apply performing_leads (World.contract_quiet view) .stepForward fun o e v => Bench.Arrives document (k + 1) o e v
  refine (stepForward_leads clear (synced.begun _) found).mono ?_ ?_
  · intro _ e' v' at'
    exact .reached (by rw [at'.offset]) (at'.noted _ _)
  · intro fault e' v' stopped
    exact .stopped (Nat.lt_succ_self k) found (by rw [stopped.synced.offset]) (stopped.noted _ _)

theorem cursor_arrives (clear : Clear document) (synced : Synced document k e v) {cursor : Nat} (lt : k < n)
    (bound : n ≤ (Statement.all document).length) (target : e.outline.boundaryAt cursor = endOf document n) :
    (e.perform (.goToCursor cursor)).Leads contract (fun p v => Bench.Arrives document n p.1 p.2 v) v := by
  apply performing_leads (World.contract_quiet view) (.goToCursor cursor) fun o e v => Bench.Arrives document n o e v
  have target' : (e.begun (.goToCursor cursor)).outline.boundaryAt cursor = endOf document n := by
    rw [synced.toReads.begun, target]
  refine (goToCursor_ahead clear (synced.begun _) lt bound target').mono ?_ ?_
  · intro _ e' v' at'
    exact .reached (by rw [at'.offset]) (at'.noted _ _)
  · rintro fault e' v' ⟨m, short, s, found, stopped⟩
    exact .stopped short found (by rw [stopped.synced.offset]) (stopped.noted _ _)

end Engine

namespace Bench

variable {document : String} {version : Int} {b b' : Bench Ledger} {k n : Nat} {o o' : Outcome}

/-- A motion that stops does so in front of the first statement that is not accepted. -/
theorem stops_once {i j : Nat} {s : Statement} (found : (Statement.all document)[i]? = some s)
    (bad : Echo.sound s.text = false) (sound : SoundTo document j) : j ≤ i := by
  by_contra beyond
  have mem : s.text ∈ textsTo document j := by
    apply List.mem_map_of_mem
    exact List.mem_of_getElem? (i := i) (by rwa [List.getElem?_take_of_lt (by omega)])
  simp [sound _ mem] at bad

/-- Two motions that stop in front of the same statement end alike. -/
theorem stopped_alike {i : Nat} {s : Statement} {fault fault' : Fault}
    (stops : Engine.Stopped document i s fault b.desk.engine (view b.world.prover))
    (stops' : Engine.Stopped document i s fault' b'.desk.engine (view b'.world.prover)) :
    Alike b b' (.failure fault.message (endOf document i)) (.failure fault'.message (endOf document i)) := by
  cases stops with
  | crashes dies fallen id =>
    cases stops' with
    | crashes dies' fallen' id' =>
      exact { success := rfl, error := rfl, offset := fallen.offset.trans fallen'.offset.symm,
              proved := fallen.proved.trans fallen'.proved.symm,
              undo := fallen.snapshot.trans fallen'.snapshot.symm,
              id := id.trans id'.symm, running := fallen.dead.trans fallen'.dead.symm }
    | fails lives bad holds => simp [dies] at lives
  | fails lives bad holds =>
    cases stops' with
    | crashes dies fallen id => simp [dies] at lives
    | fails lives' bad' holds' =>
      exact { success := rfl, error := rfl, offset := holds.offset.trans holds'.offset.symm,
              proved := holds.proved.trans holds'.proved.symm,
              undo := holds.log.snapshot.trans holds'.log.snapshot.symm,
              id := holds.id.trans holds'.id.symm, running := holds.runs.trans holds'.runs.symm }

/-- There is only one way to end. -/
theorem Arrives.alike (first : Arrives document n o b.desk.engine (view b.world.prover))
    (second : Arrives document n o' b'.desk.engine (view b'.world.prover)) : Alike b b' o o' := by
  cases first with
  | reached done at₁ =>
    cases second with
    | reached done' at₂ =>
      subst done done'
      exact { success := rfl, error := rfl, offset := at₁.offset.trans at₂.offset.symm,
              proved := at₁.proved.trans at₂.proved.symm,
              undo := at₁.log.snapshot.trans at₂.log.snapshot.symm,
              id := at₁.id.trans at₂.id.symm, running := at₁.runs.trans at₂.runs.symm }
    | stopped lt found failed stops =>
      have := stops_once found stops.unsound at₁.sound
      omega
  | @stopped i s fault lt found failed stops =>
    cases second with
    | reached done' at₂ =>
      have := stops_once found stops.unsound at₂.sound
      omega
    | @stopped j s' fault' lt' found' failed' stops' =>
      have := stops_once found stops.unsound stops'.synced.sound
      have := stops_once found' stops'.unsound stops.synced.sound
      obtain rfl : i = j := by omega
      obtain rfl : s = s' := Option.some.inj (found.symm.trans found')
      subst failed failed'
      exact stopped_alike stops stops'

/-! ## Steps -/

theorem forward_steps (clear : Clear document) (rests : b.Rests document k) (lt : k < (Statement.all document).length) :
    ∃ o, b.answerTo .stepForward = some (.outcome o) ∧ (b.after .stepForward).Idle ∧
      Arrives document (k + 1) o (b.after .stepForward).desk.engine (view (b.after .stepForward).world.prover) :=
  step_intent rests.1 .stepForward (Engine.forward_arrives clear rests.2 (List.getElem?_eq_getElem lt))

theorem Arrives.mono {e : Engine} {v : View} (arrives : Arrives document k o e v) (failed : o.success = false)
    (le : k ≤ n) : Arrives document n o e v := by
  cases arrives with
  | reached done at' => simp [done, Outcome.done] at failed
  | stopped lt found failed stops => exact .stopped (Nat.lt_of_lt_of_le lt le) found failed stops

theorem Arrives.at {e : Engine} {v : View} (arrives : Arrives document k o e v) (succeeds : o.success = true) :
    e.At document k v := by
  cases arrives with
  | reached done at' => exact at'
  | stopped lt found failed stops => simp [failed, Outcome.failure] at succeeds

/-- Steps forward come to an end. -/
theorem walk_exists (clear : Clear document) (rests : b.Rests document k) (lt : k < n)
    (bound : n ≤ (Statement.all document).length) : ∃ b' o, Walk (endOf document n) b b' o := by
  obtain ⟨d, rfl⟩ : ∃ d, n = k + 1 + d := ⟨n - (k + 1), by omega⟩
  induction d generalizing b k with
  | zero =>
    obtain ⟨o, steps, -, arrives⟩ := forward_steps clear rests (by omega)
    exact ⟨_, o, .stops steps fun succeeds => Nat.le_of_eq (arrives.at succeeds).offset.symm⟩
  | succ d ih =>
    obtain ⟨o, steps, idle, arrives⟩ := forward_steps clear rests (by omega)
    by_cases succeeds : o.success = true
    · have at' := arrives.at succeeds
      have more := ih (k := k + 1) ⟨idle, .inl at'⟩ (by omega) (by omega)
      rw [show k + 1 + 1 + d = k + 1 + (d + 1) by omega] at more
      obtain ⟨b', o', rest⟩ := more
      refine ⟨b', o', .goes steps succeeds ?_ rest⟩
      rw [at'.offset]
      exact (Engine.endOf_lt_iff (by omega) bound).mpr (by omega)
    · exact ⟨_, o, .stops steps fun absurd => (succeeds absurd).elim⟩

/-- Wherever steps forward end, they arrive. -/
theorem Walk.arrives (clear : Clear document) (walk : Walk (endOf document n) b b' o) (rests : b.Rests document k)
    (lt : k < n) (bound : n ≤ (Statement.all document).length) :
    Arrives document n o b'.desk.engine (view b'.world.prover) := by
  generalize same : endOf document n = target at walk
  induction walk generalizing k with
  | @stops b o steps ends =>
    obtain ⟨o', steps', -, arrives⟩ := forward_steps clear rests (by omega)
    obtain rfl : o = o' := by simpa using steps.symm.trans steps'
    by_cases succeeds : o.success = true
    · have reached := ends succeeds
      rw [(arrives.at succeeds).offset, ← same] at reached
      have le : ¬ k + 1 < n := fun short => Nat.not_le.mpr ((Engine.endOf_lt_iff (by omega) bound).mpr short) reached
      rwa [show n = k + 1 by omega]
    · exact arrives.mono (by simpa using succeeds) lt
  | @goes b b' o o' steps succeeds short rest ih =>
    obtain ⟨o'', steps', idle, arrives⟩ := forward_steps clear rests (by omega)
    obtain rfl : o = o'' := by simpa using steps.symm.trans steps'
    have at' := arrives.at succeeds
    rw [at'.offset, ← same] at short
    exact ih ⟨idle, .inl at'⟩ ((Engine.endOf_lt_iff (by omega) bound).mp short)

end Bench

/-- Forward motion to a cursor ends like steps forward that are taken one by one. -/
theorem batch_like_steps {document : String} (clear : Clear document) {version : Int} {b : Bench Ledger}
    (reached : b.Reached document version) {cursor : Nat}
    (ahead : b.desk.engine.offset < b.desk.engine.outline.boundaryAt cursor) :
    ∃ o, b.answerTo (.goToCursor cursor) = some (.outcome o) ∧
      (∃ b' o', Bench.Walk (b.desk.engine.outline.boundaryAt cursor) b b' o') ∧
        ∀ b' o', Bench.Walk (b.desk.engine.outline.boundaryAt cursor) b b' o' →
          Bench.Alike (b.after (.goToCursor cursor)) b' o o' := by
  obtain ⟨k, rests⟩ := reached.rests clear
  obtain ⟨n, bound, target⟩ := rests.2.toReads.boundaryAt cursor
  rw [target, rests.2.offset] at ahead
  have lt := (Engine.endOf_lt_iff rests.2.bound bound).mp ahead
  obtain ⟨o, answered, -, arrives⟩ :=
    Bench.step_intent rests.1 (.goToCursor cursor) (Engine.cursor_arrives clear rests.2 lt bound target)
  rw [target]
  exact ⟨o, answered, Bench.walk_exists clear rests lt bound,
    fun b' o' walk => arrives.alike (walk.arrives clear rests lt bound)⟩

theorem failing_document_clear : Clear "a. fail. b." where
  noUndo := by decide +kernel
  plain := by decide +kernel
  fits := by decide +kernel

/-- A batch whose second statement is rejected ends behind the first one, as single steps do. -/
theorem rejected_batch_like_steps : ∃ b : Bench Ledger, b.Reached "a. fail. b." 1 ∧
    b.desk.engine.offset < b.desk.engine.outline.boundaryAt 11 ∧ (b.after (.goToCursor 11)).desk.engine.proved = 1 ∧
      ∃ o, b.answerTo (.goToCursor 11) = some (.outcome o) ∧
        (∃ b' o', Bench.Walk (b.desk.engine.outline.boundaryAt 11) b b' o') ∧
          ∀ b' o', Bench.Walk (b.desk.engine.outline.boundaryAt 11) b b' o' →
            Bench.Alike (b.after (.goToCursor 11)) b' o o' := by
  have reached : (Bench.opened .standard "a. fail. b." 1).Reached "a. fail. b." 1 :=
    ⟨.standard, [], Desk.ofSettings_default, rfl⟩
  have ahead : (Bench.opened .standard "a. fail. b." 1).desk.engine.offset <
      (Bench.opened .standard "a. fail. b." 1).desk.engine.outline.boundaryAt 11 := by decide +kernel
  exact ⟨_, reached, ahead, by decide +kernel, batch_like_steps failing_document_clear reached ahead⟩

/-- In a batch a statement is not trimmed, and so the same text may be an undo alone and a statement among others. -/
theorem vertical_tab_batch_unlike_steps : ¬ ∀ (document : String) (version : Int) (b : Bench Ledger) (cursor : Nat),
    (∀ s ∈ Statement.all document, ¬ "undo ".toList <+: s.text.toList ∧ '[' ∉ s.text.toList) →
      b.Reached document version → b.desk.engine.offset < b.desk.engine.outline.boundaryAt cursor →
        ∃ o, b.answerTo (.goToCursor cursor) = some (.outcome o) ∧
          ∀ b' o', Bench.Walk (b.desk.engine.outline.boundaryAt cursor) b b' o' →
            Bench.Alike (b.after (.goToCursor cursor)) b' o o' := by
  intro all
  have reached : (Bench.opened .standard "a. \x0bundo 0." 1).Reached "a. \x0bundo 0." 1 :=
    ⟨.standard, [], Desk.ofSettings_default, rfl⟩
  obtain ⟨o, -, alike⟩ := all _ _ _ 20 (by decide +kernel) reached (by decide +kernel)
  have first : (Bench.opened .standard "a. \x0bundo 0." 1).answerTo .stepForward = some (.outcome (.done 2)) := by
    decide +kernel
  have second : ((Bench.opened .standard "a. \x0bundo 0." 1).after .stepForward).answerTo .stepForward =
      some (.outcome (.done 11)) := by decide +kernel
  have id := (alike _ _ (.goes first rfl (by decide +kernel) (.stops second fun _ => by decide +kernel))).id
  exact absurd id (by decide +kernel)

end Frontier
