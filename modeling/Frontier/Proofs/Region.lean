import Frontier.Proofs.AnyProver
import Frontier.Proofs.Forward
import Frontier.Proofs.Lookup

/-!
# The verified region under any prover

While the document stays the same, the verified region ends with a statement of it, and the engine's count says with
which. Nothing that a prover answers changes that. An operation that succeeds ends at its destination, whichever way it
took; one that fails stops in front of it, or no further than it began. In particular a recovery that comes to an end
has reached the offset that it was to reach.
-/

namespace Frontier

/-- Where the verified region is to end when an intent is met, if it ended at `x` before. -/
def Intent.destination (doc : String) (x : Nat) : Intent → Nat
  | .stepForward => (((Statement.all doc).find? fun s => x ≤ s.start).map (·.stop)).getD x
  | .stepBackward => (outlineOf doc 0).previousEnd x
  | .goToCursor cursor => (outlineOf doc 0).boundaryAt cursor
  | .recover => x
  | .retract edit => if edit < x then (outlineOf doc 0).boundaryUpTo edit else x
  | .reset => 0

/-- When an intent fails that finds `k` statements verified and is to leave `n`, fewer than this are verified. A step
forward fails on its way to the destination, and a reset never does. -/
def Intent.limit (k n : Nat) : Intent → Nat
  | .stepForward => n
  | .reset => 0
  | _ => max (k + 1) n

namespace Engine

namespace Outlines
variable {doc : String} {o : Outline} (outlines : Outlines doc o)
include outlines

theorem boundaryAt_same (cursor : Nat) : o.boundaryAt cursor = (outlineOf doc 0).boundaryAt cursor := by
  simp only [Outline.boundaryAt, Outline.endBefore, outlines.statements]
  rfl

theorem boundaryUpTo_same (offset : Nat) : o.boundaryUpTo offset = (outlineOf doc 0).boundaryUpTo offset := by
  simp only [Outline.boundaryUpTo, Outline.countUpTo, Outline.endBefore, outlines.statements]
  rfl

end Outlines

/-- The engine reads the document, and its verified region consists of the first `k` statements. -/
structure Covers (doc : String) (k : Nat) (e : Engine) : Prop where
  document : e.document = doc
  outlines : Outlines doc e.outline
  bound : k ≤ (Statement.all doc).length
  offset : e.offset = endOf doc k
  proved : e.proved = k

variable {σ : Type} {W : Watch σ} {own : Fault → Prop} {doc : String} {e e' : Engine} {s : σ} {k n : Nat}

theorem SameRegion.covers (same : e.SameRegion e') (covers : Covers doc k e) : Covers doc k e' where
  document := same.document.trans covers.document
  outlines := by rw [same.outline]; exact covers.outlines
  bound := covers.bound
  offset := same.offset.trans covers.offset
  proved := same.proved.trans covers.proved

theorem Covers.atStart (covers : Covers doc k e) (start : e.offset = 0) : k = 0 := by
  by_contra some
  have := (endOf_lt_iff (Nat.zero_le _) covers.bound).mpr (Nat.pos_of_ne_zero some)
  rw [← covers.offset, start] at this
  exact absurd this (Nat.not_lt_zero _)

/-- What is known of the undo log does not matter. -/
theorem Covers.logged (covers : Covers doc k e) (undo : UndoLog) : Covers doc k { e with undo } := { covers with }

theorem Covers.opened (covers : Covers doc k e) (greeting : Greeting) : Covers doc 0 (e.opened greeting) where
  document := covers.document
  outlines := covers.outlines
  bound := Nat.zero_le _
  offset := rfl
  proved := rfl

theorem Covers.begun (covers : Covers doc k e) (i : Intent) : Covers doc k (e.begun i) where
  document := covers.document
  outlines := by
    show Outlines doc (e.outline.update e.document e.version).1
    rw [covers.document]
    exact covers.outlines.update e.version
  bound := covers.bound
  offset := covers.offset
  proved := covers.proved

theorem Covers.rested (covers : Covers doc k e) (t : Transaction) : Covers doc k (e.rested t) := { covers with }

/-- The engine has stopped with fewer than `n` statements verified, and with a fault that the prover did not have to
report. -/
def Halts (own : Fault → Prop) (doc : String) (n : Nat) (fault : Fault) (e : Engine) : Prop :=
  (∃ m < n, Covers doc m e) ∧ Reported own fault

theorem Covers.halts (covers : Covers doc k e) (short : k < n) {fault : Fault} (reported : Reported own fault) :
    Halts own doc n fault e := ⟨⟨k, short, covers⟩, reported⟩

theorem Halts.mono {fault : Fault} (halts : Halts own doc k fault e) (le : k ≤ n) : Halts own doc n fault e := by
  obtain ⟨⟨m, lt, covers⟩, reported⟩ := halts
  exact ⟨⟨m, Nat.lt_of_lt_of_le lt le, covers⟩, reported⟩

variable (attends : W.Attends own)
include attends

/-! ## Forward -/

theorem executeSingle_region (covers : Covers doc k e) {stmt : Statement}
    (found : (Statement.all doc)[k]? = some stmt) :
    (executeSingle stmt).Leads W.contract (fun _ e' _ => Covers doc (k + 1) e')
      (fun fault e' _ => Halts own doc (k + 1) fault e') e s := by
  obtain ⟨lt, -⟩ := List.getElem?_eq_some_iff.mp found
  simp only [executeSingle, Act.leads_bind, Act.leads_get, Act.leads_modify]
  apply (submit_attended attends stmt.text 1 _ s).mono
  · intro response e₁ s₁ answered
    have covers₁ := answered.region.covers (covers.logged _)
    cases response.error with
    | some error => exact covers₁.halts (Nat.lt_succ_self k) (by simp [Reported, Fault.short])
    | none =>
      exact { covers₁ with
        bound := lt
        offset := (endOf_succ found).symm
        proved := congrArg (· + 1) covers₁.proved }
  · intro fault e₁ s₁ failed
    exact (failed.region.covers (covers.logged _)).halts (Nat.lt_succ_self k) failed.reported

/-- Statements sent one by one. -/
theorem replay_region (covers : Covers doc k e) (le : k ≤ n) (bound : n ≤ (Statement.all doc).length) :
    (replay (((Statement.all doc).take n).drop k)).Leads W.contract (fun _ e' _ => Covers doc n e')
      (fun fault e' _ => Halts own doc n fault e') e s := by
  obtain ⟨d, rfl⟩ : ∃ d, n = k + d := ⟨n - k, by omega⟩
  induction d generalizing k e s with
  | zero =>
    rw [List.drop_eq_nil_of_le (by rw [List.length_take]; omega)]
    exact covers
  | succ d ih =>
    obtain ⟨stmt, found, rest⟩ := drop_take_cons (show k < k + (d + 1) by omega) bound
    have ahead : e.offset < stmt.stop := by
      rw [covers.offset, ← endOf_succ found]
      exact (endOf_lt_iff covers.bound (by omega)).mpr (Nat.lt_succ_self k)
    rw [rest]
    simp only [replay, Act.leads_bind, Act.leads_get, ahead, ↓reduceIte]
    refine (executeSingle_region attends covers found).mono ?_ (fun _ _ _ halts => halts.mono (by omega))
    intro _ e₁ s₁ covers₁
    rw [show k + (d + 1) = k + 1 + d by omega] at bound ⊢
    exact ih covers₁ (by omega) bound

/-- What a batch leaves the region at. -/
def BatchCovers (doc : String) (k n : Nat) : BatchResult → Engine → Prop
  | .accepted, e => Covers doc n e
  | .rejected _, e => Covers doc k e

theorem executeBatch_region (covers : Covers doc k e) (lt : k < n) (bound : n ≤ (Statement.all doc).length) :
    (executeBatch (((Statement.all doc).take n).drop k)).Leads W.contract
      (fun result e' _ => BatchCovers doc k n result e') (fun fault e' _ => Covers doc k e' ∧ Reported own fault)
      e s := by
  have size : (((Statement.all doc).take n).drop k).length = n - k := by
    rw [List.length_drop, List.length_take]
    omega
  simp only [executeBatch, Act.leads_bind]
  apply (submit_attended attends _ _ e s).mono
  · intro response e₁ s₁ answered
    have covers₁ := answered.region.covers covers
    by_cases rejected : response.error.isSome = true
    · simp only [rejected, ↓reduceIte, Act.leads_bind, Act.leads_get, Act.leads_pure]
      exact covers₁
    · simp only [rejected, Bool.false_eq_true, ↓reduceIte, Act.leads_bind, Act.leads_modify, Act.leads_pure]
      exact { covers₁ with
        bound
        offset := by
          show (_ : Option Nat).getD e₁.offset = _
          rw [getLast?_window lt bound]
          rfl
        proved := by
          show e₁.proved + _ = n
          rw [covers₁.proved, size]
          omega }
  · intro fault e₁ s₁ failed
    exact ⟨failed.region.covers covers, failed.reported⟩

theorem rewindBatch_region (covers : Covers doc k e) (before state : Nat) :
    (rewindBatch before state).Leads W.contract (fun _ e' _ => Covers doc k e') (fun _ _ _ => False) e s := by
  unfold rewindBatch
  by_cases same : state = before
  · simpa [same] using covers
  simp only [same, ↓reduceIte, Act.leads_bind, Act.leads_get]
  by_cases valid : e.undo.valid = true
  · simp only [valid, Bool.not_true, Bool.false_eq_true, ↓reduceIte, Act.leads_bind, Act.leads_attempt]
    apply (submit_attended attends _ 1 e s).mono
    · intro response e₁ s₁ answered
      have covers₁ := answered.region.covers covers
      split
      · exact covers₁.logged _
      · exact covers₁
    · intro fault e₁ s₁ failed
      exact failed.region.covers covers
  · simpa [valid] using covers

theorem restart_region (covers : Covers doc k e) (lt : k < n) (next : Act Unit) {ok : Engine → Prop}
    (goes : ∀ e₁ s₁, Covers doc 0 e₁ → next.Leads W.contract (fun _ e' _ => ok e')
      (fun fault e' _ => Halts own doc n fault e') e₁ s₁) :
    (do haltSession; startSession; next : Act Unit).Leads W.contract (fun _ e' _ => ok e')
      (fun fault e' _ => Halts own doc n fault e') e s := by
  simp only [Act.leads_bind]
  refine (haltSession_attended attends e s).mono ?_ (fun _ _ _ absurd => absurd.elim)
  rintro _ _ s₁ ⟨rfl, -⟩
  apply (startSession_attended attends _ s₁).mono
  · rintro _ _ s₂ ⟨greeting, rfl, -⟩
    exact goes _ s₂ (covers.opened greeting)
  · rintro fault _ s₂ ⟨rfl, reported, -⟩
    exact covers.halts lt reported

theorem restartAndReplay_region (covers : Covers doc k e) (lt : k < n) (bound : n ≤ (Statement.all doc).length) :
    (restartAndReplay (((Statement.all doc).take n).drop k)).Leads W.contract (fun _ e' _ => Covers doc n e')
      (fun fault e' _ => Halts own doc n fault e') e s := by
  have all : (Statement.all doc).take k ++ ((Statement.all doc).take n).drop k =
      ((Statement.all doc).take n).drop 0 := by
    rw [List.drop_zero]
    conv => rhs; rw [← List.take_append_drop k ((Statement.all doc).take n), List.take_take,
      Nat.min_eq_left (Nat.le_of_lt lt)]
  simp only [restartAndReplay, Act.leads_bind, Act.leads_get, covers.offset, covers.outlines.upTo covers.bound, all]
  have restarts := restart_region (s := s) attends covers lt _ fun e₁ s₁ (covers₁ : Covers doc 0 e₁) =>
    replay_region (s := s₁) attends covers₁ (Nat.zero_le n) bound
  simpa only [Act.leads_bind] using restarts

theorem forwardThrough_region (covers : Covers doc k e) (lt : k < n) (bound : n ≤ (Statement.all doc).length) :
    (forwardThrough (((Statement.all doc).take n).drop k)).Leads W.contract (fun _ e' _ => Covers doc n e')
      (fun fault e' _ => Halts own doc n fault e') e s := by
  unfold forwardThrough
  split
  · next stmt alone =>
    obtain ⟨stmt', found, rest⟩ := drop_take_cons lt bound
    rw [rest] at alone
    injection alone with same none
    subst same
    have last : n = k + 1 := by
      have := congrArg List.length none
      rw [List.length_drop, List.length_take] at this
      simp only [List.length_nil] at this
      omega
    subst last
    exact executeSingle_region attends covers found
  · simp only [Act.leads_bind, Act.leads_get, Act.leads_attempt]
    apply (executeBatch_region attends covers lt bound).mono
    · intro result e₁ s₁ covers₁
      cases result with
      | accepted => exact covers₁
      | rejected state =>
        simp only [Act.leads_bind]
        refine (rewindBatch_region attends covers₁ _ state).mono ?_ (fun _ _ _ absurd => absurd.elim)
        intro rewound e₂ s₂ covers₂
        split
        · exact replay_region attends covers₂ (Nat.le_of_lt lt) bound
        · exact restartAndReplay_region attends covers₂ lt bound
    · rintro fault e₁ s₁ ⟨covers₁, reported⟩
      split
      · exact restartAndReplay_region attends covers₁ lt bound
      · exact covers₁.halts lt reported

/-! ## Recovery and backward motion -/

/-- A recovery reaches its target, or fails: on its way there, or before a new process has changed anything. -/
theorem recoverTo_region (covers : Covers doc k e) (bound : n ≤ (Statement.all doc).length) :
    (recoverTo (endOf doc n)).Leads W.contract (fun _ e' _ => Covers doc n e')
      (fun fault e' _ => Halts own doc (max (k + 1) n) fault e') e s := by
  simp only [recoverTo, Act.leads_bind, Act.leads_modify]
  have recovering : Covers doc k { e with activity := .recovering } := { covers with }
  have forward : ∀ e₁ s₁, Covers doc 0 e₁ → Act.Leads W.contract (do
      let ss := (← get).outline.upTo (endOf doc n)
      if !ss.isEmpty then forwardThrough ss) (fun _ e' _ => Covers doc n e')
        (fun fault e' _ => Halts own doc (max (k + 1) n) fault e') e₁ s₁ := by
    intro e₁ s₁ covers₁
    simp only [Act.leads_bind, Act.leads_get, covers₁.outlines.upTo bound]
    by_cases none : n = 0
    · subst none
      simpa using covers₁
    · have lt : 0 < n := Nat.pos_of_ne_zero none
      have some : ((Statement.all doc).take n).isEmpty = false := by
        rw [List.isEmpty_eq_false_iff, ← List.length_pos_iff, List.length_take]
        omega
      simp only [some, Bool.not_false, ↓reduceIte]
      have goes := forwardThrough_region (s := s₁) attends covers₁ lt bound
      rw [List.drop_zero] at goes
      exact goes.mono (fun _ _ _ covers₂ => covers₂) (fun _ _ _ halts => halts.mono (Nat.le_max_right _ _))
  have short : k < max (k + 1) n := Nat.le_max_left _ _
  simpa only [Act.leads_bind] using restart_region (s := s) attends recovering short _ forward

theorem tryUndo_region (covers : Covers doc k e) {j : Nat} (bound : j ≤ (Statement.all doc).length) :
    (tryUndo (endOf doc j)).Leads W.contract
      (fun undone e' _ => if undone then Covers doc j e' else Covers doc k e') (fun _ _ _ => False) e s := by
  apply tryUndo_attended attends
  · exact covers
  · exact fun _ _ => covers.logged _
  · exact fun state fault e' s' failed => failed.region.covers covers
  · exact fun state r e' s' answered _ => answered.region.covers covers
  · intro state r e' s' _ answered _
    have covers' := answered.region.covers covers
    exact { covers' with bound, offset := rfl, proved := covers.outlines.countUpTo bound }

theorem backwardTo_region (covers : Covers doc k e) {j : Nat} (bound : j ≤ (Statement.all doc).length) :
    (backwardTo (endOf doc j)).Leads W.contract (fun _ e' _ => Covers doc (min j k) e')
      (fun fault e' _ => Halts own doc (k + 1) fault e') e s := by
  simp only [backwardTo, Act.leads_bind, Act.leads_get, covers.offset, endOf_lt_iff bound covers.bound]
  by_cases lt : j < k
  · simp only [lt, ↓reduceIte, Act.leads_bind, Nat.min_eq_left (Nat.le_of_lt lt)]
    refine (tryUndo_region attends covers bound).mono ?_ (fun _ _ _ absurd => absurd.elim)
    intro undone e₁ s₁ covers₁
    cases undone with
    | true => exact covers₁
    | false =>
      exact (recoverTo_region attends covers₁ bound).mono (fun _ _ _ covers₂ => covers₂)
        (fun _ _ _ halts => halts.mono (by omega))
  · simp only [lt, ↓reduceIte, Act.leads_pure, Nat.min_eq_right (Nat.not_lt.mp lt)]
    exact covers

/-- Making a process ready does not change the region; the recovery that this may take does not fall short. -/
theorem ensureSession_region (covers : Covers doc k e) :
    ensureSession.Leads W.contract (fun _ e' _ => Covers doc k e') (fun fault e' _ => Halts own doc (k + 1) fault e')
      e s := by
  simp only [ensureSession, ready, Act.leads_bind, Act.leads_ask, Watch.contract_asks, Watch.contract_answers,
    Act.leads_get, Act.leads_pure]
  refine ⟨attends.allows _ _, ?_⟩
  rintro running s' ⟨-, rfl⟩
  by_cases free : (running && !e.inFlight) = true
  · simpa [free] using covers
  simp only [free, Bool.not_false, ↓reduceIte, Act.leads_bind, Act.leads_get]
  by_cases start : e.offset = 0
  · simp only [start, ↓reduceIte]
    obtain rfl := covers.atStart start
    apply (startSession_attended attends e _).mono
    · rintro _ _ s₁ ⟨greeting, rfl, -⟩
      exact covers.opened greeting
    · rintro fault _ s₁ ⟨rfl, reported, -⟩
      exact covers.halts (Nat.lt_succ_self 0) reported
  · rw [if_neg start]
    simp only [Act.leads_bind, Act.leads_get, covers.offset]
    refine (recoverTo_region attends covers covers.bound).mono ?_ (fun _ _ _ halts => halts.mono (by omega))
    intro _ e₁ s₁ covers₁
    simpa [covers₁.offset] using covers₁

/-! ## Operations -/

omit attends in
theorem find?_start (bound : k ≤ (Statement.all doc).length) :
    (Statement.all doc).find? (fun s => endOf doc k ≤ s.start) = (Statement.all doc)[k]? := by
  rw [← (outlines_outlineOf doc 0).next? bound, Outline.next?_find (Statement.all_spaced doc) rfl]

/-- An act reaches its destination if it succeeds, and stops below a limit if it fails. -/
def Arrives (W : Watch σ) (own : Fault → Prop) (doc : String) (act : Act Unit) (destination : Nat) (limit : Nat → Nat)
    (e : Engine) (s : σ) : Prop :=
  ∃ n ≤ (Statement.all doc).length, endOf doc n = destination ∧
    act.Leads W.contract (fun _ e' _ => Covers doc n e') (fun fault e' _ => Halts own doc (limit n) fault e') e s

omit attends in
variable (own) in
/-- Where there is nothing to do. -/
theorem stays_arrives (covers : Covers doc k e) (limit : Nat → Nat) :
    Arrives W own doc (pure ()) (endOf doc k) limit e s :=
  ⟨k, covers.bound, rfl, covers⟩

theorem backwardTo_arrives (covers : Covers doc k e) {j : Nat} (le : j ≤ k) :
    Arrives W own doc (backwardTo (endOf doc j)) (endOf doc j) (fun n => max (k + 1) n) e s := by
  have bound := Nat.le_trans le covers.bound
  refine ⟨j, bound, rfl, (backwardTo_region attends covers bound).mono ?_ ?_⟩
  · intro _ e₁ s₁ covers₁
    rwa [Nat.min_eq_left le] at covers₁
  · exact fun _ _ _ halts => halts.mono (Nat.le_max_left _ _)

theorem stepForward_arrives (covers : Covers doc k e) :
    Arrives W own doc (act .stepForward) (Intent.stepForward.destination doc (endOf doc k))
      (Intent.stepForward.limit k) e s := by
  simp only [Intent.destination, find?_start covers.bound]
  cases found : (Statement.all doc)[k]? with
  | none =>
    refine ⟨k, covers.bound, rfl, ?_⟩
    simpa [act, stepForward, covers.offset, covers.outlines.next? covers.bound, found] using covers
  | some stmt =>
    obtain ⟨bound, -⟩ := List.getElem?_eq_some_iff.mp found
    refine ⟨k + 1, bound, endOf_succ found, ?_⟩
    simp only [act, stepForward, Act.leads_bind, Act.leads_get, covers.offset, covers.outlines.next? covers.bound, found,
      Option.isSome_some, ↓reduceIte, Intent.limit]
    refine (ensureSession_region attends covers).mono ?_ (fun _ _ _ halts => halts)
    intro _ e₁ s₁ covers₁
    rw [covers₁.offset, covers₁.outlines.next? covers₁.bound, found]
    exact executeSingle_region attends covers₁ found

theorem stepBackward_arrives (covers : Covers doc k e) :
    Arrives W own doc (act .stepBackward) (Intent.stepBackward.destination doc (endOf doc k))
      (Intent.stepBackward.limit k) e s := by
  simp only [Intent.destination, (outlines_outlineOf doc 0).previousEnd covers.bound]
  by_cases start : e.offset = 0
  · obtain rfl := covers.atStart start
    simpa [act, stepBackward, Arrives, start]
      using stays_arrives (W := W) (s := s) own covers (Intent.stepBackward.limit 0)
  · obtain ⟨n, bound, same, leads⟩ := backwardTo_arrives (s := s) attends covers (Nat.sub_le k 1)
    refine ⟨n, bound, same, ?_⟩
    simp only [act, stepBackward, Act.leads_bind, Act.leads_get, ne_eq, start, not_false_eq_true, ↓reduceIte]
    rwa [covers.offset, covers.outlines.previousEnd covers.bound]

theorem goToCursor_arrives (covers : Covers doc k e) (cursor : Nat) :
    Arrives W own doc (act (.goToCursor cursor)) ((Intent.goToCursor cursor).destination doc (endOf doc k))
      ((Intent.goToCursor cursor).limit k) e s := by
  obtain ⟨n, bound, target⟩ := (outlines_outlineOf doc 0).boundaryAt cursor
  have target' := (covers.outlines.boundaryAt_same cursor).trans target
  simp only [Intent.destination, target]
  simp only [act, goToCursor, Arrives, Act.leads_bind, Act.leads_get, target', covers.offset,
    endOf_lt_iff bound covers.bound, endOf_lt_iff covers.bound bound]
  rcases Nat.lt_trichotomy n k with behind | rfl | ahead
  · have retracting : Covers doc k { e with activity := .retracting } := { covers with }
    simpa [behind, Arrives, Intent.limit] using backwardTo_arrives (s := s) attends retracting (Nat.le_of_lt behind)
  · simpa [Arrives] using stays_arrives (W := W) (s := s) own covers ((Intent.goToCursor cursor).limit n)
  · refine ⟨n, bound, rfl, ?_⟩
    simp only [Nat.lt_asymm ahead, ahead, ↓reduceIte, Act.leads_bind, Act.leads_get]
    refine (ensureSession_region attends covers).mono ?_ (fun _ _ _ halts => halts.mono (Nat.le_max_left _ _))
    intro _ e₁ s₁ covers₁
    obtain ⟨stmt, -, rest⟩ := drop_take_cons ahead bound
    have some : (((Statement.all doc).take n).drop k).isEmpty = false := by rw [rest]; rfl
    simp only [covers₁.offset, covers₁.outlines.within (Nat.le_of_lt ahead) bound, some, Bool.not_false, ↓reduceIte]
    exact (forwardThrough_region attends covers₁ ahead bound).mono (fun _ _ _ covers₂ => covers₂)
      (fun _ _ _ halts => halts.mono (Nat.le_max_right _ _))

theorem recover_arrives (covers : Covers doc k e) :
    Arrives W own doc (act .recover) (Intent.recover.destination doc (endOf doc k)) (Intent.recover.limit k) e s := by
  refine ⟨k, covers.bound, rfl, ?_⟩
  simpa [act, covers.offset, Intent.limit] using recoverTo_region (s := s) attends covers covers.bound

theorem retract_arrives (covers : Covers doc k e) (edit : Nat) :
    Arrives W own doc (act (.retract edit)) ((Intent.retract edit).destination doc (endOf doc k))
      ((Intent.retract edit).limit k) e s := by
  obtain ⟨j, bound, target, reached⟩ := (outlines_outlineOf doc 0).boundaryUpTo edit
  simp only [Intent.destination, target]
  by_cases inside : edit < endOf doc k
  · have le : j ≤ k := Nat.le_of_lt ((endOf_lt_iff bound covers.bound).mp (Nat.lt_of_le_of_lt reached inside))
    simpa [act, retract, Arrives, Intent.limit, covers.offset, inside, covers.outlines.boundaryUpTo_same edit, target]
      using backwardTo_arrives (s := s) attends covers le
  · simpa [act, retract, Arrives, covers.offset, inside]
      using stays_arrives (W := W) (s := s) own covers ((Intent.retract edit).limit k)

theorem reset_arrives (covers : Covers doc k e) :
    Arrives W own doc (act .reset) (Intent.reset.destination doc (endOf doc k)) (Intent.reset.limit k) e s := by
  refine ⟨0, Nat.zero_le _, rfl, ?_⟩
  simp only [act, reset, Act.leads_bind, Act.leads_modify]
  refine (haltSession_attended attends e s).mono ?_ (fun _ _ _ absurd => absurd.elim)
  rintro _ _ s₁ ⟨rfl, -⟩
  refine ⟨covers.document, ?_, Nat.zero_le _, rfl, rfl⟩
  rw [covers.document]
  exact outlines_outlineOf doc _

/-- Every intent leads to its destination. -/
theorem act_arrives (covers : Covers doc k e) (i : Intent) :
    Arrives W own doc (act i) (i.destination doc e.offset) (i.limit k) e s := by
  rw [covers.offset]
  cases i with
  | stepForward => exact stepForward_arrives attends covers
  | stepBackward => exact stepBackward_arrives attends covers
  | goToCursor cursor => exact goToCursor_arrives attends covers cursor
  | recover => exact recover_arrives attends covers
  | retract edit => exact retract_arrives attends covers edit
  | reset => exact reset_arrives attends covers

theorem perform_region (covers : Covers doc k e) (i : Intent) :
    (e.perform i).Leads W.contract (fun p _ => ∃ m, Covers doc m p.2) s := by
  apply performing_leads (attended_quiet attends) i fun _ e' _ => ∃ m, Covers doc m e'
  obtain ⟨n, -, -, leads⟩ := act_arrives (s := s) attends (covers.begun i) i
  refine leads.mono ?_ ?_
  · intro _ e' s' covers'
    exact ⟨n, covers'.rested _⟩
  · rintro fault e' s' ⟨⟨m, -, covers'⟩, -⟩
    exact ⟨m, covers'.rested _⟩

theorem shutdown_region (covers : Covers doc k e) :
    e.shutdown.Leads W.contract (fun e' _ => Covers doc k e') s := by
  simp only [shutdown, Dialogue.leads_bind]
  refine ⟨attends.allows _ _, ?_⟩
  rintro _ s' ⟨-, rfl⟩
  exact { covers with }

end Engine
end Frontier
