import Frontier.Proofs.Outline
import Frontier.Proofs.Replies

/-!
# Withdrawal behind an edit

When an edit changes the verified region, the region is withdrawn behind the edit, by an undo command or by verifying
what lies before the edit anew. Whatever the prover does on the way, the region does not end behind the edit afterwards,
with one exception: where the first start that is asked for fails, nothing is withdrawn.
-/

namespace Frontier

/-- How the first start went. -/
def firstStart : Watch (Option Bool) where
  start := none
  after s q r :=
    match q, r with
    | .start, .ok _ => some (s.getD true)
    | .start, .error _ => some (s.getD false)
    | _, _ => s
  Admits _ _ _ := True
  Allows _ _ := True

theorem firstStart_attends : firstStart.Attends fun _ => True where
  allows _ _ := trivial
  started _ := trivial
  sent _ := trivial
  running _ _ := rfl
  publish _ _ _ := rfl
  time _ _ := rfl
  drain _ _ := rfl
  unheard _ := rfl

/-! ## Engines -/

namespace Engine
variable {e e' : Engine} {s s' : Option Bool} {text : String} {expected target : Nat} {b : Bool}

theorem Answered.noStart {r : Response} (answered : Answered firstStart text expected e s r e' s') : s' = s := by
  obtain ⟨x, heard, counter, -, -, -, -, same⟩ := answered.heard
  exact same

theorem Failed.noStart {fault : Fault} (failed : Failed firstStart (fun _ => True) text e s fault e' s') : s' = s := by
  have tried : ∀ {s₁}, Tried firstStart text s s₁ → s₁ = s := by
    rintro s₁ (same | ⟨sent, same⟩)
    · exact same
    · exact same
  rcases failed.state with ⟨-, sent⟩ | ⟨-, s₁, sent, same⟩
  · exact tried sent
  · exact same.trans (tried sent)

/-- The region ends at or before a target, and it is known how the first start went. -/
def Within (target : Nat) (b : Bool) (e : Engine) (s : Option Bool) : Prop := e.offset ≤ target ∧ s = some b

theorem Within.answered {r : Response} (within : Within target b e s)
    (answered : Answered firstStart text expected e s r e' s') : Within target b e' s' :=
  ⟨by rw [answered.region.offset]; exact within.1, answered.noStart.trans within.2⟩

theorem Within.failed {fault : Fault} (within : Within target b e s)
    (failed : Failed firstStart (fun _ => True) text e s fault e' s') : Within target b e' s' :=
  ⟨by rw [failed.region.offset]; exact within.1, failed.noStart.trans within.2⟩

theorem executeSingle_within {stmt : Statement} (fits : stmt.stop ≤ target) (within : Within target b e s) :
    (executeSingle stmt).Leads firstStart.contract (fun _ => Within target b) (fun _ => Within target b) e s := by
  simp only [executeSingle, Act.leads_bind, Act.leads_get, Act.leads_modify]
  have announced : Within target b { e with undo := e.undo.announce e.proved } s := within
  apply (submit_attended firstStart_attends stmt.text 1 _ s).mono
  · intro response e₁ s₁ answered
    have within₁ := announced.answered answered
    cases response.error with
    | some error => exact within₁
    | none => exact ⟨fits, within₁.2⟩
  · exact fun fault e₁ s₁ failed => announced.failed failed

theorem executeBatch_within {ss : List Statement} (fits : ∀ stmt ∈ ss, stmt.stop ≤ target)
    (within : Within target b e s) :
    (executeBatch ss).Leads firstStart.contract (fun _ => Within target b) (fun _ => Within target b) e s := by
  simp only [executeBatch, Act.leads_bind]
  apply (submit_attended firstStart_attends _ _ e s).mono
  · intro response e₁ s₁ answered
    have within₁ := within.answered answered
    by_cases rejected : response.error.isSome = true
    · simp only [rejected, ↓reduceIte, Act.leads_bind, Act.leads_get, Act.leads_pure]
      exact within₁
    · simp only [rejected, Bool.false_eq_true, ↓reduceIte, Act.leads_bind, Act.leads_modify, Act.leads_pure]
      refine ⟨?_, within₁.2⟩
      cases last : ss.getLast? with
      | none => exact within₁.1
      | some stmt => exact fits stmt (List.mem_of_getLast? last)
  · exact fun fault e₁ s₁ failed => within.failed failed

theorem rewindBatch_within (before state : Nat) (within : Within target b e s) :
    (rewindBatch before state).Leads firstStart.contract (fun _ => Within target b) (fun _ => Within target b) e s := by
  unfold rewindBatch
  by_cases same : state = before
  · simpa [same] using within
  simp only [same, ↓reduceIte, Act.leads_bind, Act.leads_get]
  by_cases valid : e.undo.valid = true
  · simp only [valid, Bool.not_true, Bool.false_eq_true, ↓reduceIte, Act.leads_bind, Act.leads_attempt]
    apply (submit_attended firstStart_attends _ 1 e s).mono
    · intro response e₁ s₁ answered
      have within₁ := within.answered answered
      split
      · exact within₁
      · exact within₁
    · exact fun fault e₁ s₁ failed => within.failed failed
  · simpa [valid] using within

/-- Statements that end at or before a target do not take the region further. -/
theorem within_advance (target : Nat) (b : Bool) : Advance firstStart.contract (fun stmt => stmt.stop ≤ target)
    (Within target b) (Within target b) (Within target b) where
  kept within := within
  adrift within := within
  verified := by
    intro e s within stmt mem
    have stop : stmt.stop ≤ e.offset := by simpa using (List.mem_filter.mp mem).2
    exact Nat.le_trans stop within.1
  executes fits within := executeSingle_within fits within
  batches := by
    intro e s ss _ fits within
    refine (executeBatch_within fits within).mono ?_ (fun _ _ _ within₁ => within₁)
    intro result e₁ s₁ within₁
    cases result with
    | accepted => exact within₁
    | rejected state =>
      refine (rewindBatch_within _ state within₁).mono ?_ (fun _ _ _ within₂ => within₂)
      intro rewound e₂ s₂ within₂
      simpa using within₂
  halts := by
    intro e s within
    refine (haltSession_attended firstStart_attends e s).mono ?_ (fun _ _ _ absurd => absurd.elim)
    rintro _ _ _ ⟨rfl, rfl⟩
    exact within
  starts := by
    intro e s within
    apply (startSession_attended firstStart_attends e s).mono
    · rintro _ _ _ ⟨greeting, rfl, rfl⟩
      exact ⟨Nat.zero_le target, by rw [within.2]; rfl⟩
    · rintro fault _ _ ⟨rfl, -, rfl⟩
      exact ⟨within.1, by rw [within.2]; rfl⟩

/-- What the attempt to withdraw a region that ends at `x` behind a target leaves of it, with what was known of the
first start, and is known then. Either it is done, or a start failed before anything was. -/
def PulledBack (target x : Nat) (s : Option Bool) (y : Nat) (s' : Option Bool) : Prop :=
  y ≤ target ∧ (s' = s ∨ s' = some (s.getD true)) ∨ y = x ∧ s' = some (s.getD false)

theorem recoverTo_withdraws (target : Nat) (e : Engine) (s : Option Bool) :
    (recoverTo target).Leads firstStart.contract (fun _ e' s' => PulledBack target e.offset s e'.offset s')
      (fun _ e' s' => PulledBack target e.offset s e'.offset s') e s := by
  have done : ∀ {e' s'}, Within target (s.getD true) e' s' → PulledBack target e.offset s e'.offset s' :=
    fun within => .inl ⟨within.1, .inr within.2⟩
  simp only [recoverTo, Act.leads_bind, Act.leads_get, Act.leads_modify]
  refine (haltSession_attended firstStart_attends _ s).mono ?_ (fun _ _ _ absurd => absurd.elim)
  rintro _ _ _ ⟨rfl, same⟩
  rw [show _ = s from same]
  apply (startSession_attended firstStart_attends _ _).mono
  · rintro _ e₂ s₂ ⟨greeting, rfl, rfl⟩
    have opened : Within target (s.getD true) (opened { e with activity := .recovering } greeting)
      (some (s.getD true)) := ⟨Nat.zero_le target, rfl⟩
    split
    · next some =>
      refine ((within_advance target _).forwardThrough_keeps (by simpa using some) ?_ opened).mono
        (fun _ _ _ within => done within) (fun _ _ _ within => done within)
      intro stmt mem
      simpa using (List.mem_filter.mp mem).2
    · exact done opened
  -- The process is gone, but the region is put to 0 only by a start that succeeds.
  · rintro fault _ _ ⟨rfl, -, rfl⟩
    exact .inr ⟨rfl, rfl⟩

theorem tryUndo_withdraws (target : Nat) (e : Engine) (s : Option Bool) :
    (tryUndo target).Leads firstStart.contract
      (fun undone e' s' => s' = s ∧ e'.offset = if undone then target else e.offset) (fun _ _ _ => False) e s := by
  apply tryUndo_attended firstStart_attends
  · exact ⟨rfl, rfl⟩
  · exact fun _ _ => ⟨rfl, rfl⟩
  · exact fun state fault e' s' failed => ⟨failed.noStart, failed.region.offset⟩
  · exact fun state r e' s' answered _ => ⟨answered.noStart, answered.region.offset⟩
  · exact fun state r e' s' _ answered _ => ⟨answered.noStart, rfl⟩

/-- A retraction withdraws the region behind the edit, unless the first start fails. -/
theorem retract_withdraws {edit : Nat} (inside : edit < e.offset) (s : Option Bool) :
    (act (.retract edit)).Leads firstStart.contract (fun _ e' s' => PulledBack edit e.offset s e'.offset s')
      (fun _ e' s' => PulledBack edit e.offset s e'.offset s') e s := by
  have reaches := Outline.boundaryUpTo_le e.outline edit
  have behind : e.outline.boundaryUpTo edit < e.offset := Nat.lt_of_le_of_lt reaches inside
  have further : ∀ {y s'}, PulledBack (e.outline.boundaryUpTo edit) e.offset s y s' →
      PulledBack edit e.offset s y s' := by
    rintro y s' (⟨le, started⟩ | failed)
    · exact .inl ⟨Nat.le_trans le reaches, started⟩
    · exact .inr failed
  simp only [act, retract, backwardTo, Act.leads_bind, Act.leads_get, inside, behind, ↓reduceIte]
  refine (tryUndo_withdraws _ e s).mono ?_ (fun _ _ _ absurd => absurd.elim)
  rintro undone e₁ s₁ ⟨rfl, offset⟩
  cases undone with
  | true =>
    have offset : e₁.offset = e.outline.boundaryUpTo edit := offset
    exact further (.inl ⟨Nat.le_of_eq offset, .inl rfl⟩)
  | false =>
    have offset : e₁.offset = e.offset := offset
    rw [← offset] at further ⊢
    exact (recoverTo_withdraws _ e₁ s₁).mono (fun _ _ _ withdrawn => further withdrawn)
      (fun _ _ _ withdrawn => further withdrawn)

theorem perform_withdraws {edit : Nat} (inside : edit < e.offset) (s : Option Bool) :
    (e.perform (.retract edit)).Leads firstStart.contract
      (fun p s' => PulledBack edit e.offset s p.2.offset s') s := by
  apply performing_leads (attended_quiet firstStart_attends) (.retract edit)
    fun _ e' s' => PulledBack edit e.offset s e'.offset s'
  have begun : edit < (e.begun (.retract edit)).offset := inside
  exact (retract_withdraws begun s).mono (fun _ _ _ withdrawn => withdrawn) (fun _ _ _ withdrawn => withdrawn)

end Engine

/-! ## Calls -/

/-- A call that reports an edit. -/
def Call.Edits : Call → Prop
  | .update _ _ (some _) => True
  | _ => False

theorem Inbox.add_edit_le {b : Inbox} {document : String} {version : Int} {edit first : Nat}
    (added : (b.add document version (some edit)).edit = some first) : first ≤ edit := by
  cases pending : b.edit with
  | none =>
    obtain rfl : edit = first := by simpa [Inbox.add, pending] using added
    exact Nat.le_refl _
  | some old =>
    obtain rfl : min old edit = first := by simpa [Inbox.add, pending] using added
    exact Nat.min_le_right old edit

namespace Desk
variable {P : Nat → Option Bool → Prop} {d : Desk} {s : Option Bool}

/-- What the dialogue of a phase that follows an update has to lead to. -/
def Leaves (P : Nat → Option Bool → Prop) (d : Desk) (f : Finding) (s : Option Bool) : Prop :=
  match d.holder, f with
  | some (_, .settling), .performed _ e => P e.offset s
  | some (_, .stopping), .stopped e => P e.offset s
  | some (_, .recording _), .status status => P d.engine.offset s ∧ status.offset = d.engine.offset
  | _, _ => False

/-- The condition holds of the end of the region once the engine is free, and no other operation than a retraction is
carried out before that. -/
def Settles (P : Nat → Option Bool → Prop) : Desk → Option (Dialogue Finding) → Option Bool → Prop :=
  Course.Holds firstStart.contract (fun d s => P d.engine.offset s ∧ d.offset = d.engine.offset) (Leaves P)

/-- The condition survives further retractions. -/
def Survives (P : Nat → Option Bool → Prop) : Prop :=
  ∀ {first x s y s'}, P x s → first < x → Engine.PulledBack first x s y s' → P y s'

theorem retract_settles {edit : Nat} (ticket : Ticket) (inside : edit < d.engine.offset)
    (holds : ∀ y s', Engine.PulledBack edit d.engine.offset s y s' → P y s') :
    Settles P (d.perform ticket .settling (.retract edit)).desk
      (d.perform ticket .settling (.retract edit)).work s := by
  refine ⟨rfl, ?_⟩
  rw [Dialogue.leads_bind]
  exact (Engine.perform_withdraws inside s).mono fun p s' withdrawn => holds _ _ withdrawn

theorem wrapUp_settles (ticket : Ticket) (a : Answer) (holds : P d.engine.offset s) :
    Settles P (d.wrapUp ticket a).desk (d.wrapUp ticket a).work s := by
  refine ⟨rfl, trivial, ?_⟩
  rintro running _ ⟨-, rfl⟩
  exact ⟨holds, rfl⟩

theorem stop_settles (ticket : Ticket) (answers : List (Ticket × Answer)) (holds : P d.engine.offset s) :
    Settles P (d.stop ticket answers).desk (d.stop ticket answers).work s := by
  refine ⟨rfl, trivial, ?_⟩
  rintro halted _ ⟨-, rfl⟩
  exact holds

theorem release_settles (answers : List (Ticket × Answer)) (waiting : List (Ticket × Bool))
    (holds : P d.engine.offset s) (noted : d.offset = d.engine.offset) :
    Settles P (d.release answers waiting).desk (d.release answers waiting).work s := by
  obtain ⟨shown, -, free | ⟨next, rest, stops⟩⟩ := d.release_cases answers waiting
  · rw [free]
    exact ⟨rfl, holds, noted⟩
  · rw [stops]
    exact stop_settles next _ holds

theorem proceed_settles {f : Finding} (again : d.inbox.edit = none ∨ Survives P) (leaves : d.Leaves P f s) :
    Settles P (d.proceed f).desk (d.proceed f).work s := by
  unfold Leaves at leaves
  split at leaves
  · next ticket o e held =>
    have follows := performed_follows held rfl o e
    generalize d.proceed (.performed o e) = m at follows ⊢
    cases follows with
    | retracts drained edit pending inside =>
      refine retract_settles ticket inside fun y s' withdrawn => ?_
      rcases again with none | survives
      · simp [none] at pending
      · rw [drained.engine_offset] at inside withdrawn
        exact survives leaves inside withdrawn
    | opens drained i held => cases held
    | answers drained =>
      refine wrapUp_settles ticket _ ?_
      rw [drained.engine_offset]
      exact leaves
  · next ticket e held =>
    simp only [Desk.proceed, held]
    exact wrapUp_settles ticket .shutDown leaves
  · next ticket a status held =>
    obtain ⟨holds, noted⟩ := leaves
    rw [proceed_status held]
    exact release_settles [(ticket, a)] d.waiting holds noted
  · exact leaves.elim

end Desk

namespace Course
variable {P : Nat → Option Bool → Prop} {meant : Call → Prop} {c c' : Course}

/-- What may happen next while a call holds the engine and hosts make calls of a kind. -/
inductive HeldStep (meant : Call → Prop) (c : Course) : Course → Prop
  | call (ticket : Ticket) (x : Call) (held : c.desk.holder.isSome) (kind : meant x) :
    HeldStep meant c (c.call ticket x)
  | hear (q : Query) (next : q.Reply → Dialogue Finding) (r : q.Reply) (waits : c.work = some (.ask q next)) :
    HeldStep meant c (c.hear q r (some (next r)))
  | proceed (f : Finding) (ended : c.work = some (.done f)) : HeldStep meant c (c.proceed f)

theorem play_held (meant : Call → Prop) (reply : (q : Query) → q.Reply) (n : Nat) (c : Course) :
    Relation.ReflTransGen (HeldStep meant) c (c.play reply n) := by
  fun_induction play reply n c with
  | case1 | case2 => exact .refl
  | case3 c n q next waits ih => exact .head (.hear q next (reply q) waits) ih
  | case4 c n f ended ih => exact .head (.proceed f ended) ih

/-- The engine comes to rest where the condition holds, and if that does not survive a retraction, no edit waits. -/
def Settles (P : Nat → Option Bool → Prop) (c : Course) : Prop :=
  (c.desk.inbox.edit = none ∨ Desk.Survives P) ∧ Desk.Settles P c.desk c.work (firstStart.sum c.asked)

/-- No edit comes to wait if none is meant. -/
theorem HeldStep.no_edit (step : HeldStep meant c c') (quiet : ∀ x, meant x → ¬ x.Edits)
    (none : c.desk.inbox.edit = none) : c'.desk.inbox.edit = .none := by
  cases step with
  | call ticket x held kind =>
    cases x with
    | update document version edit =>
      cases edit with
      | none => simpa [Course.call, Desk.call, held, Inbox.add] using none
      | some edit => exact absurd trivial (quiet _ kind)
    | _ => simpa [Course.call, Desk.call, held] using none
  | hear q next r waits => exact none
  | proceed f ended =>
    rcases c.desk.proceed_edit f with ⟨taken, -⟩ | same
    · exact taken
    · exact same.trans none

theorem HeldStep.settles (step : HeldStep meant c c') (kinds : (∀ x, meant x → ¬ x.Edits) ∨ Desk.Survives P)
    (settles : c.Settles P) : c'.Settles P := by
  obtain ⟨again, settles⟩ := settles
  refine ⟨?_, ?_⟩
  · rcases kinds with quiet | survives
    · exact again.imp_left (step.no_edit quiet)
    · exact .inr survives
  · cases step with
    | call ticket x held kind =>
      refine Holds.call settles ticket x ?_ ?_
      · intro d' holder engine
        funext f s
        simp only [Desk.Leaves, holder, engine]
      · intro free
        simp [free] at held
    | hear q next r waits =>
      simp only [Course.hear, Watch.sum_concat]
      exact (Holds.hear settles waits ⟨trivial, rfl⟩).2
    | proceed f ended => exact Desk.proceed_settles again (Holds.ended settles ended)

/-- A free desk takes an update with an edit in the verified region. -/
theorem update_settles {d : Desk} (free : d.holder = none) {edit : Nat} (inside : edit < d.engine.offset)
    (ticket : Ticket) (text : String) (version : Int)
    (holds : ∀ first ≤ edit, ∀ y s', Engine.PulledBack first d.engine.offset none y s' → P y s') :
    (({ desk := d } : Course).call ticket (.update text version (some edit))).Settles P := by
  obtain ⟨d', drained, cases⟩ := Desk.update_cases free ticket text version (some edit)
  have offset : d'.engine.offset = d.engine.offset := drained.engine_offset
  rcases cases with ⟨outside, -⟩ | ⟨first, added, inside', retracts⟩
  · obtain ⟨first, added⟩ : ∃ first, (d.inbox.add text version (some edit)).edit = some first := by
      cases pending : d.inbox.edit <;> exact ⟨_, by simp [Inbox.add, pending]; rfl⟩
    have := outside first added
    have := Inbox.add_edit_le added
    omega
  · have called : ({ desk := d } : Course).call ticket (.update text version (some edit)) =
        { desk := (d'.perform ticket .settling (.retract first)).desk
          work := (d'.perform ticket .settling (.retract first)).work } := by
      simp [Course.call, retracts, Desk.perform]
    rw [called]
    refine ⟨.inl drained.edit, Desk.retract_settles ticket inside' ?_⟩
    rw [offset]
    exact holds first (Inbox.add_edit_le added)

/-- The condition holds once the engine is free again after such an update. -/
theorem update_rests {d : Desk} (free : d.holder = none) {edit : Nat} (inside : edit < d.engine.offset)
    {ticket : Ticket} {text : String} {version : Int} (kinds : (∀ x, meant x → ¬ x.Edits) ∨ Desk.Survives P)
    (holds : ∀ first ≤ edit, ∀ y s', Engine.PulledBack first d.engine.offset none y s' → P y s')
    (path : Relation.ReflTransGen (HeldStep meant)
      (({ desk := d } : Course).call ticket (.update text version (some edit))) c) (rest : c.desk.holder = none) :
    c.desk.offset = c.desk.engine.offset ∧ P c.desk.engine.offset (firstStart.sum c.asked) := by
  have settles : c.Settles P := by
    clear rest
    induction path with
    | refl => exact update_settles free inside ticket text version holds
    | tail path step ih => exact step.settles kinds ih
  obtain ⟨-, holds, noted⟩ := Holds.rest settles.2 rest
  exact ⟨noted, holds⟩

end Course

/-- After an update with an edit in the verified region, the region ends at or before the edit once the engine is free
again, whatever the prover did and whatever hosts called, unless the first start that was asked for failed. If it
failed and no other edit came, the region is the one from before, so that it covers the edit. -/
theorem region_behind_edit_iff {d : Desk} (free : d.holder = none) {edit : Nat} (inside : edit < d.engine.offset)
    (ticket : Ticket) (text : String) (version : Int) :
    (∀ c, Relation.ReflTransGen (Course.HeldStep fun _ => True)
        (({ desk := d } : Course).call ticket (.update text version (some edit))) c → c.desk.holder = none →
      c.desk.offset = c.desk.engine.offset ∧ (firstStart.sum c.asked = some false ∨ c.desk.engine.offset ≤ edit)) ∧
    ∀ c, Relation.ReflTransGen (Course.HeldStep fun x => ¬ x.Edits)
        (({ desk := d } : Course).call ticket (.update text version (some edit))) c → c.desk.holder = none →
      (c.desk.engine.offset ≤ edit ↔ firstStart.sum c.asked ≠ some false) ∧
        (firstStart.sum c.asked = some false → c.desk.engine.offset = d.engine.offset) := by
  refine ⟨?_, ?_⟩
  -- Once the first start has failed it stays so, and further retractions only withdraw the region.
  · intro c path rest
    refine Course.update_rests (P := fun y s => s = some false ∨ y ≤ edit) free inside (.inr ?_) ?_ path rest
    · rintro first x s y s' holds below (⟨le, started⟩ | ⟨rfl, failed⟩)
      · rcases holds with rfl | behind
        · rcases started with rfl | rfl
          · exact .inl rfl
          · exact .inl rfl
        · exact .inr (by omega)
      · rcases holds with rfl | behind
        · exact .inl failed
        · exact .inr behind
    · rintro first le y s' (⟨le', -⟩ | ⟨-, failed⟩)
      · exact .inr (Nat.le_trans le' le)
      · exact .inl failed
  · intro c path rest
    have kept : ∀ first ≤ edit, ∀ y s', Engine.PulledBack first d.engine.offset none y s' →
        s' = some false ∧ y = d.engine.offset ∨ s' ≠ some false ∧ y ≤ edit := by
      rintro first le y s' (⟨le', started⟩ | ⟨same, failed⟩)
      · refine .inr ⟨?_, Nat.le_trans le' le⟩
        rcases started with rfl | rfl
        · simp
        · simp
      · exact .inl ⟨failed, same⟩
    obtain ⟨-, holds⟩ := Course.update_rests
      (P := fun y s => s = some false ∧ y = d.engine.offset ∨ s ≠ some false ∧ y ≤ edit) free inside
      (.inl fun _ quiet => quiet) kept path rest
    rcases holds with ⟨failed, same⟩ | ⟨started, behind⟩
    · exact ⟨by simp [failed, same, Nat.not_le.mpr inside], fun _ => same⟩
    · exact ⟨by simp [started, behind], fun failed => absurd failed started⟩

/-- The answers of a prover whose process has gone and cannot be started again. -/
def goneReply : (q : Query) → q.Reply
  | .start => .error (.communication "no more processes")
  | q => sayingReply "" false q

/-- The second statement is changed, and the region still covers it. -/
theorem changed_statement_covered : ∃ d c₀ c : Course, d.Reached {} ∧
    c₀ = ({ desk := d.desk } : Course).call 2 (.update "a. c." 2 (some 3)) ∧ d.desk.holder = none ∧
      3 < d.desk.engine.offset ∧ Relation.ReflTransGen (Course.HeldStep fun x => ¬ x.Edits) c₀ c ∧
      c.desk.holder = none ∧ firstStart.sum c.asked = some false ∧ c.desk.engine.offset = 5 := by
  let c₀ := ({ desk := bothCourse.desk } : Course).call 2 (.update "a. c." 2 (some 3))
  have free : bothCourse.desk.holder = none := by decide +kernel
  have offset : bothCourse.desk.engine.offset = 5 := by decide +kernel
  have inside : 3 < bothCourse.desk.engine.offset := by rw [offset]; decide
  have path := Course.play_held (fun x => ¬ x.Edits) goneReply 20 c₀
  have rest : (c₀.play goneReply 20).desk.holder = none := by decide +kernel
  have failed : firstStart.sum (c₀.play goneReply 20).asked = some false := by decide +kernel
  obtain ⟨-, stays⟩ := (region_behind_edit_iff free inside 2 "a. c." 2).2 _ path rest
  exact ⟨bothCourse, c₀, _, bothCourse_reached, rfl, free, inside, path, rest, failed, (stays failed).trans offset⟩

end Frontier
