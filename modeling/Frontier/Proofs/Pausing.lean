import Frontier.Proofs.Bench

/-!
# Pauses

A dialogue that waits beyond a limit is paused, the host does something else, and the dialogue goes on later. That
does not matter to it: it hears what it would have heard without the pause, and leaves the prover as it would have.
-/

namespace Frontier
open Ledger

namespace Echo

theorem execute_unread (p : Echo) (notices : List ExitNotice) (chunk : String) (ss : List Statement) :
    ∃ notices', ({ p with notices } : Echo).execute chunk ss = { p.execute chunk ss with notices := notices' } := by
  induction ss generalizing p chunk with
  | nil => exact ⟨notices, rfl⟩
  | cons s rest ih =>
    simp only [execute]
    split
    · split
      · exact ⟨_, rfl⟩
      · exact ⟨_, rfl⟩
    · split
      · exact ⟨_, rfl⟩
      · exact ih { p with id := p.id + 1 } _

theorem send_unread (p : Echo) (notices : List ExitNotice) (text : String) :
    ∃ notices', ({ p with notices } : Echo).send text =
      ({ (p.send text).1 with notices := notices' }, (p.send text).2) := by
  simp only [send]
  split
  · exact ⟨notices, rfl⟩
  · split
    · exact ⟨notices, rfl⟩
    · simp only [respond]
      split
      · simp only [undo]
        split
        · exact ⟨notices, rfl⟩
        · exact ⟨notices, rfl⟩
      · obtain ⟨notices', same⟩ := execute_unread { p with sent := p.sent ++ [text] } notices "" (Statement.all text)
        exact ⟨notices', by rw [same]⟩

end Echo

namespace Ledger

/-- Ledgers that differ only in the exit notices that wait to be read. -/
def Alike (l l' : Ledger) : Prop := ∃ notices, l' = { l with echo := { l.echo with notices } }

theorem Alike.view {l l' : Ledger} (alike : l.Alike l') : l'.view = l.view := by
  obtain ⟨notices, rfl⟩ := alike
  rfl

end Ledger

namespace World

/-- Worlds that differ only in what was passed on to the host and waits to be. -/
structure Like (w w' : World Ledger) : Prop where
  clock : w'.clock = w.clock
  prover : w.prover.Alike w'.prover

/-- Worlds that are alike once a moment has come. -/
structure Meet (moment : Nat) (w w' : World Ledger) : Prop where
  clock : w'.clock = w.clock ∨ w.clock ≤ moment ∧ w'.clock ≤ moment
  prover : w.prover.Alike w'.prover

variable {w w' : World Ledger} {moment limit : Nat}

theorem Like.meet (like : w.Like w') (moment : Nat) : Meet moment w w' := ⟨.inl like.clock, like.prover⟩

theorem passTo_alike (w : World Ledger) (moment : Nat) : w.prover.Alike (w.passTo moment).prover := by
  unfold passTo
  split
  · exact ⟨[], rfl⟩
  · exact ⟨w.prover.echo.notices, rfl⟩

theorem Meet.passTo (meet : Meet moment w w') {later : Nat} (le : moment ≤ later) :
    (w.passTo later).Like (w'.passTo later) where
  clock := by
    rw [passTo_clock, passTo_clock]
    rcases meet.clock with same | ⟨first, second⟩
    · rw [same]
    · rw [Nat.max_eq_left (by omega), Nat.max_eq_left (by omega)]
  prover := by
    obtain ⟨notices, same⟩ := meet.prover
    obtain ⟨first, passed⟩ := passTo_alike w later
    obtain ⟨second, passed'⟩ := passTo_alike w' later
    exact ⟨second, by rw [passed, passed', same]⟩

/-! ## Listening -/

/-- When an exchange ends if nothing more is heard. -/
def ends (x : Exchange) (h : Hearing) : Nat := h.sent + x.endsAt h.listening

/-- Nothing more is heard of an exchange before it ends. -/
def Silent (w : World Ledger) (x : Exchange) (h : Hearing) : Prop :=
  ∀ moment, w.prover.echo.wakes = some moment → ends x h < max moment w.clock

/-- A world after its prover has told something. -/
def told (w : World Ledger) (moment : Nat) : World Ledger × Option Event :=
  let (w, event) := (w.passTo moment).consult Prover.deliver
  (match event.bind Event.text? with
    | some text => { w with feed := w.feed.push (.rawOutput text) }
    | none => w, event)

variable {x : Exchange} {h : Hearing} {bound : Option Nat}

theorem listen_silent (fuel : Nat) (silent : w.Silent x h) : w.listen bound x (fuel + 1) h =
    if within bound (ends x h) then ((w.passTo (ends x h)).instruct fun _ => Prover.abandon, .inl h.heard.reverse)
    else (w, .inr h) := by
  have wakes : Prover.wakes w.prover = w.prover.echo.wakes := rfl
  unfold listen
  cases moment : w.prover.echo.wakes with
  | none =>
    simp only [wakes, moment, ends]
    rfl
  | some moment =>
    have late := silent _ moment
    simp only [ends] at late
    simp only [wakes, moment, late, ↓reduceIte, ends]
    rfl

theorem listen_told (fuel : Nat) {moment : Nat} (wakes : w.prover.echo.wakes = some moment)
    (intime : max moment w.clock ≤ ends x h) : w.listen bound x (fuel + 1) h =
      if within bound (max moment w.clock) then
        let (v, event) := w.told (max moment w.clock)
        let heard := (max moment w.clock - h.sent, event) :: h.heard
        match x.hear h.listening (max moment w.clock - h.sent) event with
        | .error _ => (v, .inl heard.reverse)
        | .ok listening => (v.instruct Prover.await).listen bound x fuel { h with listening, heard }
      else (w, .inr h) := by
  have wakes : Prover.wakes w.prover = some moment := wakes
  conv => lhs; unfold listen
  have intime : ¬ h.sent + x.endsAt h.listening < max moment w.clock := Nat.not_lt.mpr intime
  simp only [wakes, intime, ↓reduceIte]
  cases within bound (max moment w.clock) with
  | false => rfl
  | true => rfl

/-- When the next thing happens to an exchange. -/
def due (w : World Ledger) (x : Exchange) (h : Hearing) : Nat := (w.prover.echo.wakes.getD (ends x h)).min (ends x h)

theorem Meet.wakes (meet : Meet moment w w') : w'.prover.echo.wakes = w.prover.echo.wakes := by
  obtain ⟨notices, same⟩ := meet.prover
  rw [same]
  rfl

/-- An event comes at the same time in both worlds. -/
theorem Meet.max (meet : Meet (w.due x h) w w') (wakes : w.prover.echo.wakes = some moment) :
    Max.max moment w'.clock = Max.max moment w.clock := by
  have first : w.due x h ≤ moment := by
    rw [due, wakes]
    exact Nat.min_le_left _ _
  rcases meet.clock with same | ⟨one, other⟩
  · rw [same]
  · omega

theorem Meet.silent (meet : Meet (w.due x h) w w') (silent : w.Silent x h) : w'.Silent x h := by
  intro moment wakes
  rw [meet.wakes] at wakes
  rw [meet.max wakes]
  exact silent moment wakes

theorem told_same (w : World Ledger) (moment : Nat) :
    (w.told moment).1.clock = (w.passTo moment).clock ∧
      (w.told moment).1.prover = (Prover.deliver (w.passTo moment).clock (w.passTo moment).prover).1 ∧
        (w.told moment).2 = (Prover.deliver (w.passTo moment).clock (w.passTo moment).prover).2 := by
  refine ⟨?_, ?_, rfl⟩
  · simp only [told]
    split <;> rfl
  · simp only [told]
    split <;> rfl

theorem Meet.told (meet : Meet moment w w') {later : Nat} (le : moment ≤ later) :
    (w.told later).1.Like (w'.told later).1 ∧ (w'.told later).2 = (w.told later).2 := by
  obtain ⟨clock, notices, prover⟩ := meet.passTo le
  obtain ⟨clock₁, prover₁, event₁⟩ := told_same w later
  obtain ⟨clock₂, prover₂, event₂⟩ := told_same w' later
  refine ⟨⟨by rw [clock₁, clock₂, clock], notices, ?_⟩, ?_⟩
  · rw [prover₁, prover₂, prover]
    rfl
  · rw [event₁, event₂, prover]
    rfl

theorem Like.await (like : w.Like w') : (w.instruct Prover.await).Like (w'.instruct Prover.await) := by
  obtain ⟨clock, notices, prover⟩ := like
  refine ⟨clock, notices, ?_⟩
  simp only [instruct, prover, clock, Prover.await, Echo.await]
  split <;> rfl

/-- Enough steps to listen to all that a prover has to tell. -/
def stock (w : World Ledger) : Nat :=
  w.prover.echo.queue.length + match w.prover.echo.waiting with
    | some (.event ..) => 2
    | _ => 1

/-- After an event less is left. -/
theorem stock_told {event : Event} (heard : (w.told moment).2 = some event) :
    ((w.told moment).1.instruct Prover.await).stock < w.stock := by
  obtain ⟨-, prover, same⟩ := told_same w moment
  obtain ⟨notices, passed⟩ := passTo_alike w moment
  rw [same, passed] at heard
  rw [passed] at prover
  simp only [Prover.deliver, Echo.deliver] at heard prover
  split at heard
  · next due event waits =>
    simp only [stock, instruct, prover, Prover.await, Echo.await, waits]
    split
    · next more => simp [more]
    · next none =>
      by_cases runs : w.prover.echo.running = true
      · simp [none, runs]
      · simp [none, runs]
  · cases heard

/-- What does not lie within a limit lies beyond it. -/
theorem beyond {bound : Option Nat} {due : Nat} (goes : ¬ within bound due = true) :
    ∃ limit, bound = some limit ∧ limit < due := by
  cases bound with
  | none => exact absurd rfl goes
  | some limit =>
    rw [within, Option.all_some, decide_eq_true_eq, Nat.not_le] at goes
    exact ⟨limit, rfl, goes⟩

theorem silent_or_told (w : World Ledger) (x : Exchange) (h : Hearing) :
    w.Silent x h ∨ ∃ moment, w.prover.echo.wakes = some moment ∧ max moment w.clock ≤ ends x h := by
  cases wakes : w.prover.echo.wakes with
  | none => exact .inl fun moment found => by rw [wakes] at found; cases found
  | some moment =>
    rcases Nat.lt_or_ge (ends x h) (max moment w.clock) with late | intime
    · left
      intro moment' found
      rw [wakes] at found
      cases found
      exact late
    · exact .inr ⟨moment, rfl, intime⟩

theorem stock_pos (w : World Ledger) : 0 < w.stock := by
  simp only [stock]
  split <;> omega

theorem due_le_ends (w : World Ledger) (x : Exchange) (h : Hearing) : w.due x h ≤ ends x h := Nat.min_le_right _ _

theorem due_le (w : World Ledger) (x : Exchange) (h : Hearing) (wakes : w.prover.echo.wakes = some moment) :
    w.due x h ≤ moment := by
  rw [due, wakes]
  exact Nat.min_le_left _ _

theorem le_due {limit : Nat} (first : limit ≤ ends x h)
    (second : ∀ moment, w.prover.echo.wakes = some moment → limit ≤ moment) : limit ≤ w.due x h := by
  rw [due]
  cases wakes : w.prover.echo.wakes with
  | none => exact Nat.le_min.mpr ⟨first, first⟩
  | some moment => exact Nat.le_min.mpr ⟨second moment wakes, first⟩

/-- A wait that goes beyond a limit is left at it. -/
theorem Meet.passed (meet : Meet moment w w') (waits : w'.clock < limit → limit ≤ moment) :
    Meet moment w (w'.passTo limit) where
  clock := by
    rw [passTo_clock]
    rcases meet.clock with same | ⟨first, second⟩
    · omega
    · omega
  prover := by
    obtain ⟨first, prover⟩ := meet.prover
    obtain ⟨second, passed⟩ := passTo_alike w' limit
    exact ⟨second, by rw [passed, prover]⟩

/-- Worlds that are alike when the next thing happens hear the same of an exchange, unless it is paused in one of them;
then the worlds are alike again when the next thing happens, if the time passes to the limit at most. -/
theorem listen_meet {fuel fuel' : Nat} (meet : Meet (w.due x h) w w') (enough : w.stock ≤ fuel)
    (enough' : w.stock ≤ fuel') (bound : Option Nat) :
    (∃ heard v v', w.listen none x fuel h = (v, .inl heard) ∧ w'.listen bound x fuel' h = (v', .inl heard) ∧
      v.Like v') ∨
    ∃ v h' more v', w.listen none x fuel h = v.listen none x more h' ∧ v.stock ≤ more ∧
      w'.listen bound x fuel' h = (v', .inr h') ∧
        ∃ limit, bound = some limit ∧ ∀ moment ≤ limit, Meet (v.due x h') v (v'.passTo moment) := by
  induction fuel generalizing w w' h fuel' with
  | zero => exact absurd w.stock_pos (by omega)
  | succ fuel ih =>
    obtain ⟨fuel', rfl⟩ : ∃ n, fuel' = n + 1 := ⟨fuel' - 1, by have := w.stock_pos; omega⟩
    rcases silent_or_told w x h with silent | ⟨moment, wakes, intime⟩
    · rw [listen_silent fuel' (meet.silent silent)]
      by_cases goes : within bound (ends x h) = true
      · obtain ⟨clock, notices, prover⟩ := meet.passTo (w.due_le_ends x h)
        rw [if_pos goes]
        refine .inl ⟨_, _, _, listen_silent fuel silent, rfl, clock, notices, ?_⟩
        simp only [instruct, prover]
        rfl
      · rw [if_neg goes]
        obtain ⟨limit, rfl, short⟩ := beyond goes
        refine .inr ⟨w, h, fuel + 1, w', rfl, enough, rfl, limit, rfl, fun moment le => meet.passed fun before => ?_⟩
        refine le_due (by omega) fun wake wakes => ?_
        have late := meet.silent silent wake (meet.wakes.trans wakes)
        omega
    · have wakes' : w'.prover.echo.wakes = some moment := meet.wakes.trans wakes
      have same := meet.max wakes
      rw [listen_told fuel' wakes' (by rwa [same]), same]
      by_cases goes : within bound (max moment w.clock) = true
      · have late : w.due x h ≤ max moment w.clock := Nat.le_trans (w.due_le x h wakes) (Nat.le_max_left _ _)
        obtain ⟨like, event⟩ := meet.told late
        have always : within none (max moment w.clock) = true := rfl
        rw [if_pos goes, listen_told fuel wakes intime, if_pos always]
        simp only [event]
        cases heard : x.hear h.listening (max moment w.clock - h.sent) (w.told (max moment w.clock)).2 with
        | error fault => exact .inl ⟨_, _, _, rfl, rfl, like⟩
        | ok listening =>
          obtain ⟨said, told⟩ : ∃ said, (w.told (max moment w.clock)).2 = some said := by
            cases told : (w.told (max moment w.clock)).2 with
            | none =>
              rw [told] at heard
              cases heard
            | some said => exact ⟨said, rfl⟩
          have less := stock_told told
          exact ih (like.await.meet _) (by omega) (by omega)
      · rw [if_neg goes]
        obtain ⟨limit, rfl, short⟩ := beyond goes
        refine .inr ⟨w, h, fuel + 1, w', rfl, enough, rfl, limit, rfl, fun later le => meet.passed fun before => ?_⟩
        refine le_due (by omega) fun wake found => ?_
        rw [wakes] at found
        cases found
        omega

theorem stock_le_load (w : World Ledger) : w.stock ≤ Prover.load w.prover + 1 := by
  simp only [stock, Prover.load]
  split <;> omega

theorem Meet.stock (meet : Meet moment w w') : w'.stock = w.stock := by
  obtain ⟨-, notices, prover⟩ := meet
  simp only [World.stock, prover]

/-! ## Questions -/

variable {α : Type} {q : Query} {v : World Ledger} {r : q.Reply}

/-- When a wait goes on. -/
def ripe (w : World Ledger) : {q : Query} → q.Pause → Nat
  | _, .starting due => due
  | _, .halting due => due
  | _, @Query.Pause.listening x h => w.due x h

/-- A wait has ended within a bound, or was paused at the limit and ends later. -/
inductive Reaches {β γ : Type} (again : World Ledger → γ → World Ledger × (β ⊕ γ)) (bound : Option Nat)
    (v : World Ledger) (b : β) : World Ledger × (β ⊕ γ) → Prop
  | ended {v' : World Ledger} (like : v.Like v') : Reaches again bound v b (v', .inl b)
  | paused {v' : World Ledger} {c : γ} {limit : Nat} (bounded : bound = some limit)
    (later : ∀ moment ≤ limit, ∃ v₁, again (v'.passTo moment) c = (v₁, .inl b) ∧ v.Like v₁) :
    Reaches again bound v b (v', .inr c)

theorem Like.start (like : w.Like w') : (w.consult Prover.endStart).1.Like (w'.consult Prover.endStart).1 ∧
    (w'.consult Prover.endStart).2 = (w.consult Prover.endStart).2 := by
  obtain ⟨clock, notices, prover⟩ := like
  refine ⟨⟨clock, notices, ?_⟩, ?_⟩
  · simp only [consult, prover, Prover.endStart, Echo.start]
    split <;> rfl
  · simp only [consult, prover, Prover.endStart, Echo.start]
    split <;> rfl

/-- A wait that is alike in two worlds ends alike, with pauses or without. -/
theorem resume_reaches (p : q.Pause) (meet : Meet (w.ripe p) w w') (ends : w.resume none p = (v, .inl r))
    (bound : Option Nat) : Reaches (fun w (p : q.Pause) => w.resume none p) bound v r (w'.resume bound p) := by
  cases p with
  | starting due =>
    have starts : ∀ {w'}, Meet due w w' → ∃ v', (⟨(w'.passTo due).consult Prover.endStart |>.1,
        .inl ((w'.passTo due).consult Prover.endStart).2⟩ : World Ledger × (_ ⊕ Query.Pause .start)) = (v', .inl r) ∧
          v.Like v' := by
      intro w' meet
      obtain ⟨like, same⟩ := (meet.passTo (Nat.le_refl due)).start
      cases ends
      exact ⟨_, by rw [same]; rfl, like⟩
    have meet : Meet due w w' := meet
    by_cases goes : within bound due = true
    · obtain ⟨v', same, like⟩ := starts meet
      simp only [resume, goes, ↓reduceIte]
      rw [same]
      exact .ended like
    · obtain ⟨limit, rfl, short⟩ := beyond goes
      simp only [resume, goes]
      exact .paused rfl fun moment le => starts (meet.passed fun _ => by omega)
  | halting due =>
    have halts : ∀ {w'}, Meet due w w' → v.Like (w'.passTo due) := by
      intro w' meet
      cases ends
      exact meet.passTo (Nat.le_refl due)
    have meet : Meet due w w' := meet
    by_cases goes : within bound due = true
    · simp only [resume, goes, ↓reduceIte]
      exact .ended (halts meet)
    · obtain ⟨limit, rfl, short⟩ := beyond goes
      simp only [resume, goes]
      exact .paused rfl fun moment le => ⟨_, rfl, halts (meet.passed fun _ => by omega)⟩
  | @listening x h =>
    have load : w.stock ≤ Prover.load w'.prover + 1 := by
      rw [← meet.stock]
      exact w'.stock_le_load
    simp only [resume] at ends ⊢
    rcases listen_meet meet w.stock_le_load load bound with
      ⟨heard, v₁, v', full, part, like⟩ | ⟨v₁, h', more, v', full, enough, part, limit, bounded, later⟩
    · rw [full] at ends
      cases ends
      rw [part]
      exact .ended like
    · rw [part]
      refine .paused bounded fun moment le => ?_
      have meet' := later moment le
      have load' : v₁.stock ≤ Prover.load (v'.passTo moment).prover + 1 := by
        rw [← meet'.stock]
        exact (v'.passTo moment).stock_le_load
      rcases listen_meet meet' enough load' none with
        ⟨heard, v₂, v₃, full', part', like⟩ | ⟨-, -, -, -, -, -, -, limit, absurd, -⟩
      · rw [full, full'] at ends
        cases ends
        refine ⟨v₃, ?_, like⟩
        simp only [part']
      · cases absurd

/-! ## Dialogues -/

theorem Like.refl (w : World Ledger) : w.Like w := ⟨rfl, w.prover.echo.notices, rfl⟩

theorem Like.trans {w₁ w₂ w₃ : World Ledger} (first : w₁.Like w₂) (second : w₂.Like w₃) : w₁.Like w₃ where
  clock := second.clock.trans first.clock
  prover := by
    obtain ⟨-, one, prover⟩ := first
    obtain ⟨-, other, prover'⟩ := second
    exact ⟨other, by rw [prover', prover]⟩

theorem Like.form (like : w.Like w') : ∃ notices feed,
    w' = { w with prover := { w.prover with echo := { w.prover.echo with notices } }, feed } := by
  obtain ⟨clock, prover, feed⟩ := w'
  obtain ⟨rfl, notices, rfl⟩ := like
  exact ⟨notices, feed, rfl⟩

theorem Like.halt (like : w.Like w') (limit : Nat) :
    (w.consult fun now => Prover.halt now limit).1.Like (w'.consult fun now => Prover.halt now limit).1 := by
  obtain ⟨notices, feed, rfl⟩ := like.form
  have stops : ∃ notices', ({ w.prover.echo with notices } : Echo).stop =
      { w.prover.echo.stop with notices := notices' } := by
    simp only [Echo.stop]
    split
    · exact ⟨_, rfl⟩
    · exact ⟨notices, rfl⟩
  obtain ⟨notices', stops⟩ := stops
  refine ⟨rfl, notices', ?_⟩
  simp only [consult, Prover.halt, stops]

/-- A question is answered alike in worlds that are alike, with pauses or without. -/
theorem answer_reaches (like : w.Like w') (q : Query) {r : q.Reply} (ends : w.answer none q = (v, .inl r))
    (bound : Option Nat) : Reaches (fun w (p : q.Pause) => w.resume none p) bound v r (w'.answer bound q) := by
  have halts := like.halt
  have awaits := like.await
  obtain ⟨notices, feed, rfl⟩ := like.form
  cases q with
  | running =>
    cases ends
    exact .ended ⟨rfl, notices, rfl⟩
  | stop =>
    cases ends
    obtain ⟨clock, prover⟩ := halts 0
    exact .ended ⟨clock, prover⟩
  | halt limit => exact resume_reaches (.halting w.clock) ((halts limit).meet _) ends bound
  | start => exact resume_reaches (.starting w.clock) (like.meet _) ends bound
  | drain =>
    cases ends
    exact .ended ⟨rfl, notices, rfl⟩
  | send text =>
    cases ends
    obtain ⟨notices', same⟩ := Echo.send_unread w.prover.echo notices text
    have sends : ({ w with prover := { w.prover with echo := { w.prover.echo with notices } }, feed } :
        World Ledger).answer bound (.send text) =
          (⟨w.clock, ⟨{ (w.prover.echo.send text).1 with notices := notices' }, w.prover.after text⟩, feed⟩,
            .inl (w.prover.echo.send text).2) := by
      simp only [answer, consult, Prover.send, same]
      rfl
    rw [sends]
    exact .ended ⟨rfl, notices', rfl⟩
  | listen x =>
    exact resume_reaches (Query.Pause.listening (x := x) ⟨w.clock, x.begin, []⟩) (awaits.meet _) ends bound
  | publish n =>
    cases ends
    exact .ended ⟨rfl, notices, rfl⟩
  | time =>
    cases ends
    exact .ended ⟨rfl, notices, rfl⟩

/-- Goes on with what follows a wait. -/
def goOn (bound : Option Nat) (next : q.Reply → Dialogue α) :
    World Ledger × (q.Reply ⊕ q.Pause) → World Ledger × (α ⊕ Paused α)
  | (w, .inl r) => w.run bound (next r)
  | (w, .inr pause) => (w, .inr ⟨q, pause, next⟩)

theorem run_ask (bound : Option Nat) (w : World Ledger) (next : q.Reply → Dialogue α) :
    w.run bound (.ask q next) = goOn bound next (w.answer bound q) := by
  rw [run]
  rcases w.answer bound q with ⟨w₁, r | pause⟩
  · rfl
  · rfl

theorem rerun_resume (bound : Option Nat) (w : World Ledger) (p : Paused α) :
    w.rerun bound p = goOn bound p.next (w.resume bound p.pause) := by
  rw [rerun]
  rcases w.resume bound p.pause with ⟨w₁, r | pause⟩
  · rfl
  · rfl

/-- What follows a wait ends alike if it does so without pauses. -/
theorem Reaches.next {bound : Option Nat} {w₁ : World Ledger} {out : World Ledger × (q.Reply ⊕ q.Pause)} {a : α}
    {next : q.Reply → Dialogue α} (reaches : Reaches (fun w (p : q.Pause) => w.resume none p) bound w₁ r out)
    (goes : ∀ {w'}, w₁.Like w' → ∀ bound,
      Reaches (fun w (p : Paused α) => w.rerun none p) bound v a (w'.run bound (next r))) :
    Reaches (fun w (p : Paused α) => w.rerun none p) bound v a (goOn bound next out) := by
  cases reaches with
  | ended like => exact goes like bound
  | paused bounded later =>
    refine .paused bounded fun moment le => ?_
    obtain ⟨v₁, resumed, like⟩ := later moment le
    have ended := goes like none
    simp only [rerun_resume, resumed, goOn]
    generalize v₁.run none (next r) = out at ended
    cases ended with
    | ended like' => exact ⟨_, rfl, like'⟩
    | paused absurd => cases absurd

/-- A dialogue ends alike in worlds that are alike, with pauses or without. -/
theorem run_reaches {d : Dialogue α} {a : α} (like : w.Like w') (ends : w.run none d = (v, .inl a))
    (bound : Option Nat) : Reaches (fun w (p : Paused α) => w.rerun none p) bound v a (w'.run bound d) := by
  induction d generalizing w w' bound with
  | done b =>
    cases ends
    exact .ended like
  | ask q next ih =>
    rw [run_ask] at ends ⊢
    cases answered : w.answer none q with
    | mk w₁ out =>
      rw [answered] at ends
      cases out with
      | inr pause => cases ends
      | inl r => exact (answer_reaches like q answered bound).next fun like₁ bound => ih r like₁ ends bound

/-- A dialogue that was paused ends alike, with further pauses or without. -/
theorem rerun_reaches {p : Paused α} {a : α} (ends : w.rerun none p = (v, .inl a)) (bound : Option Nat) :
    Reaches (fun w (p : Paused α) => w.rerun none p) bound v a (w.rerun bound p) := by
  rw [rerun_resume] at ends ⊢
  cases resumed : w.resume none p.pause with
  | mk w₁ out =>
    rw [resumed] at ends
    cases out with
    | inr pause => cases ends
    | inl r =>
      exact (resume_reaches p.pause ((Like.refl w).meet _) resumed bound).next fun like bound =>
        run_reaches like ends bound

end World
end Frontier
