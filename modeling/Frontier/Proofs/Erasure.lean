import Frontier.Proofs.Synchrony

/-!
# A ledger is an echo prover

The ledger only writes down what an echo prover does. If it is forgotten in the course of any turns, the desk and its
answers are the same, and the echo prover is the one that took part in these turns alone.
-/

namespace Frontier
variable {σ τ α : Type}

/-- A map between models of a prover that no question can tell apart. -/
structure Prover.Erases [Prover σ] [Prover τ] (f : σ → τ) : Prop where
  running : ∀ now s, Prover.running now (f s) = (Prover.running now s).map f id
  stop : ∀ now s, Prover.stop now (f s) = f (Prover.stop now s)
  halt : ∀ now limit s, Prover.halt now limit (f s) = (Prover.halt now limit s).map f id
  beginStart : ∀ now s, Prover.beginStart now (f s) = (Prover.beginStart now s).map f id
  endStart : ∀ now s, Prover.endStart now (f s) = (Prover.endStart now s).map f id
  drain : ∀ now s, Prover.drain now (f s) = (Prover.drain now s).map f id
  send : ∀ now text s, Prover.send now text (f s) = (Prover.send now text s).map f id
  await : ∀ now s, Prover.await now (f s) = f (Prover.await now s)
  wakes : ∀ s, Prover.wakes (f s) = Prover.wakes s
  deliver : ∀ now s, Prover.deliver now (f s) = (Prover.deliver now s).map f id
  abandon : ∀ s, Prover.abandon (f s) = f (Prover.abandon s)
  load : ∀ s, Prover.load (f s) = Prover.load s
  notice : ∀ now s, Prover.notice now (f s) = f (Prover.notice now s)
  exits : ∀ s, Prover.exits (f s) = (Prover.exits s).map f id

theorem Ledger.erases : Prover.Erases Ledger.echo where
  running _ _ := rfl
  stop _ _ := rfl
  halt _ _ _ := rfl
  beginStart _ _ := rfl
  endStart _ _ := rfl
  drain _ _ := rfl
  send _ _ _ := rfl
  await _ _ := rfl
  wakes _ := rfl
  deliver _ _ := rfl
  abandon _ := rfl
  load _ := rfl
  notice _ _ := rfl
  exits _ := rfl

namespace World
variable {f : σ → τ}

/-- A world with another model of its prover. -/
def erase (f : σ → τ) (w : World σ) : World τ := ⟨w.clock, f w.prover, w.feed⟩

theorem erase_consult {β : Type} {g : Nat → σ → σ × β} {g' : Nat → τ → τ × β}
    (same : ∀ now s, g' now (f s) = (g now s).map f id) (w : World σ) :
    (w.erase f).consult g' = (w.consult g).map (erase f) id := by
  simp [consult, erase, same]

theorem erase_instruct {g : Nat → σ → σ} {g' : Nat → τ → τ} (same : ∀ now s, g' now (f s) = f (g now s))
    (w : World σ) : (w.erase f).instruct g' = (w.instruct g).erase f := by
  simp [instruct, erase, same]

variable [Prover σ] [Prover τ] (erases : Prover.Erases f)
include erases

theorem erase_forward (w : World σ) : (w.erase f).forward = w.forward.erase f := by
  simp [forward, erase, erases.exits]

theorem erase_passTo (w : World σ) (moment : Nat) : (w.erase f).passTo moment = (w.passTo moment).erase f := by
  unfold passTo
  rw [erase_forward erases]
  by_cases later : w.clock < moment
  · rw [if_pos later, if_pos (show (w.erase f).clock < moment from later)]
    rfl
  · rw [if_neg later, if_neg (show ¬ (w.erase f).clock < moment from later)]

theorem erase_listen (limit : Option Nat) (x : Exchange) (fuel : Nat) (w : World σ) (h : Hearing) :
    (w.erase f).listen limit x fuel h = (w.listen limit x fuel h).map (erase f) id := by
  induction fuel generalizing w h with
  | zero => rfl
  | succ fuel ih =>
    have wakes : Prover.wakes (w.erase f).prover = Prover.wakes w.prover := erases.wakes _
    have clock : (w.erase f).clock = w.clock := rfl
    have finish : ∀ w : World σ, ∀ ends : Nat, (if within limit ends then
        (((w.erase f).passTo ends).instruct fun _ => Prover.abandon, Sum.inl h.heard.reverse)
        else (w.erase f, Sum.inr h)) = (if within limit ends then
        ((w.passTo ends).instruct fun _ => Prover.abandon, Sum.inl (β := Hearing) h.heard.reverse)
        else (w, Sum.inr h)).map (erase f) id := by
      intro w ends
      split
      · rw [erase_passTo erases, erase_instruct fun _ => erases.abandon]
        rfl
      · rfl
    unfold listen
    simp only [wakes, clock]
    cases Prover.wakes w.prover with
    | none => exact finish w _
    | some moment =>
      simp only [erase_passTo erases, erase_consult (erases.deliver)]
      by_cases beyond : h.sent + x.endsAt h.listening < max moment w.clock
      · simp only [beyond, ↓reduceIte, ← erase_passTo erases]
        exact finish w _
      · by_cases inside : within limit (max moment w.clock) = true
        · simp only [beyond, inside, Bool.not_true, Bool.false_eq_true, ↓reduceIte, Prod.map_fst, Prod.map_snd, id]
          generalize (w.passTo (max moment w.clock)).consult Prover.deliver = heard
          obtain ⟨w', event⟩ := heard
          simp only
          cases x.hear h.listening (max moment w.clock - h.sent) event with
          | error fault =>
            cases event.bind Event.text? <;> rfl
          | ok listening =>
            simp only
            rw [← ih, ← erase_instruct erases.await]
            cases event.bind Event.text? <;> rfl
        · simp only [beyond, inside, Bool.not_false, ↓reduceIte]
          rfl

theorem erase_resume {q : Query} (limit : Option Nat) (w : World σ) (p : q.Pause) :
    (w.erase f).resume limit p = (w.resume limit p).map (erase f) id := by
  cases p with
  | starting due =>
    simp only [resume, erase_passTo erases, erase_consult erases.endStart]
    split <;> rfl
  | halting due =>
    simp only [resume, erase_passTo erases]
    split <;> rfl
  | @listening x h =>
    have load : Prover.load (w.erase f).prover = Prover.load w.prover := erases.load _
    simp only [resume, load, erase_listen erases]
    generalize w.listen limit x (Prover.load w.prover + 1) h = ends
    obtain ⟨w', heard | h'⟩ := ends <;> rfl

theorem erase_answer (limit : Option Nat) (w : World σ) (q : Query) :
    (w.erase f).answer limit q = (w.answer limit q).map (erase f) id := by
  cases q with
  | running => simp only [answer, erase_consult erases.running]; rfl
  | stop => simp only [answer, erase_instruct erases.stop]; rfl
  | halt bound =>
    simp only [answer, erase_consult fun now => erases.halt now bound, Prod.map_fst, Prod.map_snd, id]
    exact erase_resume erases _ _ _
  | start =>
    simp only [answer, erase_consult erases.beginStart, Prod.map_fst, Prod.map_snd, id]
    exact erase_resume erases _ _ _
  | drain => simp only [answer, erase_consult erases.drain]; rfl
  | send text => simp only [answer, erase_consult fun now => erases.send now text]; rfl
  | listen x =>
    simp only [answer, erase_instruct erases.await]
    exact erase_resume erases _ _ _
  | publish n => rfl
  | time => rfl

theorem erase_run (limit : Option Nat) (w : World σ) (d : Dialogue α) :
    (w.erase f).run limit d = (w.run limit d).map (erase f) id := by
  induction d generalizing w with
  | done a => rfl
  | ask q next ih =>
    simp only [run, erase_answer erases]
    generalize w.answer limit q = answered
    obtain ⟨w', r | pause⟩ := answered
    · exact ih r w'
    · rfl

theorem erase_runs {limit : Option Nat} {w w' : World σ} {d : Dialogue α} {r : α ⊕ Paused α}
    (runs : w.run limit d = (w', r)) : (w.erase f).run limit d = (w'.erase f, r) := by
  rw [erase_run erases, runs]
  rfl

theorem erase_rerun (limit : Option Nat) (w : World σ) (p : Paused α) :
    (w.erase f).rerun limit p = (w.rerun limit p).map (erase f) id := by
  simp only [rerun, erase_resume erases]
  generalize w.resume limit p.pause = resumed
  obtain ⟨w', r | pause⟩ := resumed
  · exact erase_run erases limit w' (p.next r)
  · rfl

end World

namespace Bench
variable {f : σ → τ}

/-- Two deeds that are the same if the one model is taken for the other. -/
inductive Deed.Erased (f : σ → τ) : Deed σ → Deed τ → Prop
  | call (c : Call) : Erased f (.call c) (.call c)
  | wait (ms : Nat) : Erased f (.wait ms) (.wait ms)
  | meddle {g : Nat → σ → σ} {g' : Nat → τ → τ} (same : ∀ now s, g' now (f s) = f (g now s)) :
    Erased f (.meddle g) (.meddle g')

/-- A bench with another model of its prover. -/
def erase (f : σ → τ) (b : Bench σ) : Bench τ := ⟨b.world.erase f, b.desk, b.job, b.answers⟩

/-- The end of a step, in which time may pass. -/
def ended [Prover σ] (pass : World σ → World σ) (b : Bench σ) : Bench σ × Option Answer × List Sight :=
  let b := b.goOn none
  let b := { b with world := pass b.world }
  let b := { b with world := (b.world.instruct Prover.notice).forward }
  (b, b.answer? mainTicket, [])

variable [Prover σ] [Prover τ] (erases : Prover.Erases f)
include erases

theorem erase_drive (limit : Option Nat) (b : Bench σ) (m : Move) :
    (b.erase f).drive limit m = (b.drive limit m).erase f := by
  have world : (b.erase f).world = b.world.erase f := rfl
  fun_induction Bench.drive limit b m with
  | case1 b m b' none =>
    rw [drive]
    simp only [none]
    rfl
  | case2 b m b' work some w paused runs =>
    have runs : (b.world.erase f).run limit work = _ := World.erase_runs erases runs
    rw [drive]
    simp only [some, world, runs]
    rfl
  | case3 b m b' work some w finding runs next more ih =>
    have runs : (b.world.erase f).run limit work = _ := World.erase_runs erases runs
    have more : (m.desk.proceed finding).work.isSome = true := more
    rw [drive]
    simp only [some, world, runs, more, ↓reduceDIte]
    exact ih rfl
  | case4 b m b' work some w finding runs next last =>
    have runs : (b.world.erase f).run limit work = _ := World.erase_runs erases runs
    have last : ¬ (m.desk.proceed finding).work.isSome = true := last
    rw [drive]
    simp only [some, world, runs, last]
    rfl

theorem erase_goOn (limit : Option Nat) (b : Bench σ) : (b.erase f).goOn limit = (b.goOn limit).erase f := by
  have job : (b.erase f).job = b.job := rfl
  unfold goOn
  rw [job]
  cases b.job with
  | none => rfl
  | some paused =>
    simp only [show (b.erase f).world.rerun limit paused = _ from World.erase_rerun erases limit b.world paused]
    generalize b.world.rerun limit paused = reruns
    obtain ⟨world, finding | paused⟩ := reruns
    · exact erase_drive erases limit { b with world, job := some _ } (b.desk.proceed finding)
    · rfl

theorem erase_call (limit : Option Nat) (b : Bench σ) (ticket : Ticket) (c : Call) :
    (b.erase f).call limit ticket c = (b.call limit ticket c).erase f := by
  have desk : (b.erase f).desk = b.desk := rfl
  simp only [call, desk]
  split
  · exact erase_drive erases limit b _
  · rfl

theorem erase_settled (w : World σ) :
    ((w.erase f).instruct Prover.notice).forward = (w.instruct Prover.notice).forward.erase f := by
  rw [World.erase_instruct erases.notice, World.erase_forward erases]

theorem erase_ended (pass : World σ → World σ) (pass' : World τ → World τ)
    (same : ∀ w, pass' (w.erase f) = (pass w).erase f) (b : Bench σ) :
    (b.erase f).ended pass' = (b.ended pass).map (erase f) id := by
  have world : ∀ b : Bench σ, (b.erase f).world = b.world.erase f := fun _ => rfl
  simp only [ended, erase_goOn erases, world, same, erase_settled erases]
  rfl

/-- What the main task does, while there is no second one. -/
theorem erase_step {d : Deed σ} {d' : Deed τ} (same : d.Erased f d') (b : Bench σ) :
    (b.erase f).step d' [] = (b.step d []).map (erase f) id := by
  cases same with
  | call c =>
    have calls := erase_call erases none { b with answers := [] } mainTicket c
    exact (congrArg (ended id) calls).trans (erase_ended erases id id (fun _ => rfl) _)
  | wait ms =>
    exact erase_ended erases (·.passTo (b.world.clock + ms)) (·.passTo (b.world.clock + ms))
      (World.erase_passTo erases · _) { b with answers := [] }
  | @meddle g g' same =>
    have meddles :
        (⟨{ b.world.erase f with prover := g' b.world.clock (f b.world.prover) }, b.desk, b.job, []⟩ : Bench τ) =
          erase f ⟨{ b.world with prover := g b.world.clock b.world.prover }, b.desk, b.job, []⟩ := by
      rw [same]
      rfl
    exact (congrArg (ended id) meddles).trans (erase_ended erases id id (fun _ => rfl) _)

end Bench

/-! ## Turns -/

/-- What is done to an echo prover in a turn. -/
def Turn.echoDeed : Turn → Bench.Deed Echo
  | .intent i => .call (.intent i)
  | .shutdown => .call .shutdown
  | .crash code => .meddle fun _ p => p.crash code
  | .rejectUndo rejects => .meddle fun _ p => { p with rejectsUndo := rejects }
  | .lazyStart lazy => .meddle fun _ p => { p with lazy }
  | .wait ms => .wait ms

theorem Turn.deed_erased (t : Turn) : t.deed.Erased Ledger.echo t.echoDeed := by
  cases t with
  | intent i => exact .call _
  | shutdown => exact .call _
  | crash code => exact .meddle fun _ _ => rfl
  | rejectUndo rejects => exact .meddle fun _ _ => rfl
  | lazyStart lazy => exact .meddle fun _ _ => rfl
  | wait ms => exact .wait ms

namespace Bench

/-- A new desk with an echo prover is given a document. -/
def openedEcho (d : Desk) (document : String) (version : Int) : Bench Echo :=
  (({ world := { prover := {} }, desk := d } : Bench Echo).step (.call (.update document version none)) []).1

/-- Without the ledger the turns are taken by the echo prover alone. -/
theorem erase_play (d : Desk) (document : String) (version : Int) (turns : List Turn) :
    ((opened d document version).play turns).erase Ledger.echo =
      turns.foldl (fun b t => (b.step t.echoDeed []).1) (openedEcho d document version) := by
  have begins : (opened d document version).erase Ledger.echo = openedEcho d document version :=
    (congrArg Prod.fst (erase_step Ledger.erases (.call (.update document version none)) _)).symm
  rw [← begins, play]
  generalize opened d document version = b
  induction turns generalizing b with
  | nil => rfl
  | cons t turns ih =>
    have step : ((b.erase Ledger.echo).step t.echoDeed []).1 = (b.step t.deed []).1.erase Ledger.echo :=
      congrArg Prod.fst (erase_step Ledger.erases t.deed_erased b)
    rw [List.foldl_cons, List.foldl_cons, step]
    exact ih _

end Bench
end Frontier
