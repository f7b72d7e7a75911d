import Frontier.Prover.Echo
import Frontier.Proofs.Custody
import Frontier.Proofs.ErrorPattern
import Frontier.Proofs.World

/-!
# What the prover says, and what the host is told

A command takes what the prover has said before it, all at once, and then hears the prover out. The host is told
everything that is taken, in this order and word by word, with one exception: behind an exit notice among what was said
before the command, nothing is passed on, although it was taken.
-/

namespace Frontier

/-- The texts of events, in order. -/
def texts (events : List Event) : List String := events.filterMap Event.text?

/-- The events before the first exit notice. -/
def beforeExit (events : List Event) : List Event := events.takeWhile fun e => !e.isExit

/-- The first exit notice and the events behind it. -/
def fromExit (events : List Event) : List Event := events.dropWhile fun e => !e.isExit

/-- The texts that a feed has passed on. -/
def Feed.texts (f : Feed) : List String :=
  f.unread.toList.filterMap fun
    | .rawOutput text => some text
    | _ => none

theorem texts_append (first second : List Event) : texts (first ++ second) = texts first ++ texts second :=
  List.filterMap_append

theorem texts_split (events : List Event) : texts events = texts (beforeExit events) ++ texts (fromExit events) := by
  rw [← texts_append, beforeExit, fromExit, List.takeWhile_append_dropWhile]

namespace Feed

theorem texts_push (f : Feed) (n : Notification) :
    (f.push n).texts = f.texts ++ (match n with
      | .rawOutput text => [text]
      | _ => []) := by
  unfold texts push
  rw [Array.toList_push, List.filterMap_append]
  cases n <;> rfl

/-- Exit notices are no texts. -/
theorem texts_foldl_exits (f : Feed) (notices : List ExitNotice) :
    ((notices.filterMap ExitNotice.notification?).foldl Feed.push f).texts = f.texts := by
  induction notices generalizing f with
  | nil => rfl
  | cons notice rest ih =>
    cases expected : notice.expected with
    | true => simpa [ExitNotice.notification?, expected] using ih f
    | false =>
      have told := ih (f.push (.processExited notice.session notice.code true))
      rw [texts_push, List.append_nil] at told
      simpa [ExitNotice.notification?, expected] using told

end Feed

/-! ## A tapped prover -/

/-- A prover, and everything that has been taken from it, in order. -/
structure Tapped (σ : Type) where
  prover : σ
  taken : List Event := []

namespace Tapped
variable {σ : Type}

/-- Does something with the prover that takes nothing from it. -/
def around {β : Type} (t : Tapped σ) (p : σ × β) : Tapped σ × β := ({ t with prover := p.1 }, p.2)

/-- Does something with the prover that takes events from it. -/
def taking {β : Type} (t : Tapped σ) (events : β → List Event) (p : σ × β) : Tapped σ × β :=
  (⟨p.1, t.taken ++ events p.2⟩, p.2)

instance [Prover σ] : Prover (Tapped σ) where
  running now t := t.around (Prover.running now t.prover)
  stop now t := { t with prover := Prover.stop now t.prover }
  halt now limit t := t.around (Prover.halt now limit t.prover)
  beginStart now t := t.around (Prover.beginStart now t.prover)
  endStart now t := t.around (Prover.endStart now t.prover)
  drain now t := t.taking id (Prover.drain now t.prover)
  send now text t := t.around (Prover.send now text t.prover)
  await now t := { t with prover := Prover.await now t.prover }
  wakes t := Prover.wakes t.prover
  deliver now t := t.taking Option.toList (Prover.deliver now t.prover)
  abandon t := { t with prover := Prover.abandon t.prover }
  load t := Prover.load t.prover
  notice now t := { t with prover := Prover.notice now t.prover }
  exits t := t.around (Prover.exits t.prover)

end Tapped

namespace World
variable {σ : Type} {w w₁ w₂ : World (Tapped σ)} {taken taken' : List Event} {told told' : List String}

/-- From one world to the other, these events are taken from the prover, and the host is told these texts. -/
structure Passes (w : World (Tapped σ)) (taken : List Event) (told : List String) (w' : World (Tapped σ)) : Prop where
  taken : w'.prover.taken = w.prover.taken ++ taken
  told : w'.feed.texts = w.feed.texts ++ told

theorem Passes.refl (w : World (Tapped σ)) : w.Passes [] [] w := ⟨by simp, by simp⟩

theorem Passes.trans (first : w.Passes taken told w₁) (second : w₁.Passes taken' told' w₂) :
    w.Passes (taken ++ taken') (told ++ told') w₂ :=
  ⟨by rw [second.taken, first.taken, List.append_assoc], by rw [second.told, first.told, List.append_assoc]⟩

/-- From one world to the other, the host is told whatever is taken from the prover. -/
def Relays (w w' : World (Tapped σ)) : Prop := ∃ heard, w.Passes heard (texts heard) w'

theorem Relays.refl (w : World (Tapped σ)) : w.Relays w := ⟨[], .refl w⟩

theorem Relays.trans (first : w.Relays w₁) (second : w₁.Relays w₂) : w.Relays w₂ := by
  obtain ⟨heard, first⟩ := first
  obtain ⟨more, second⟩ := second
  exact ⟨heard ++ more, texts_append heard more ▸ first.trans second⟩

/-- An event that was taken is told. -/
theorem relays_push (event : Option Event) (feed : w₁.feed = w.feed)
    (taken : w₁.prover.taken = w.prover.taken ++ event.toList) :
    w.Relays (match event.bind Event.text? with
      | some text => { w₁ with feed := w₁.feed.push (.rawOutput text) }
      | none => w₁) := by
  refine ⟨event.toList, ?_⟩
  cases event with
  | none => exact ⟨taken, by simp [← feed, texts]⟩
  | some event =>
    cases event with
    | output text => exact ⟨taken, by simp [← feed, texts, Feed.texts_push, Event.text?]⟩
    | complaint line => exact ⟨taken, by simp [← feed, texts, Feed.texts_push, Event.text?]⟩
    | exited code expected => exact ⟨taken, by simp [← feed, texts, Event.text?]⟩

theorem push_passes (w : World (Tapped σ)) (text : String) :
    w.Passes [] [text] { w with feed := w.feed.push (.rawOutput text) } :=
  ⟨by simp, Feed.texts_push w.feed (.rawOutput text)⟩

theorem instruct_relays (w : World (Tapped σ)) (f : Nat → Tapped σ → Tapped σ)
    (silent : ∀ now t, (f now t).taken = t.taken) : w.Relays (w.instruct f) :=
  ⟨[], by simpa [instruct] using silent w.clock w.prover, by simp [instruct, texts]⟩

variable [Prover σ]

/-- Time passes silently. -/
theorem passTo_relays (w : World (Tapped σ)) (moment : Nat) : w.Relays (w.passTo moment) := by
  unfold passTo
  split
  · refine ⟨[], by simp [forward, Prover.exits, Tapped.around], ?_⟩
    rw [texts, List.filterMap_nil, List.append_nil]
    exact w.feed.texts_foldl_exits _
  · exact .refl w

/-- Whatever is taken in an exchange is told, even if the exchange is paused. -/
theorem listen_relays (limit : Option Nat) (x : Exchange) (fuel : Nat) (w : World (Tapped σ)) (h : Hearing) :
    w.Relays (w.listen limit x fuel h).1 := by
  induction fuel generalizing w h with
  | zero => exact .refl w
  | succ fuel ih =>
    have ends : ∀ moment, w.Relays ((w.passTo moment).instruct fun _ => Prover.abandon) :=
      fun moment => (w.passTo_relays moment).trans (instruct_relays _ (fun _ => Prover.abandon) fun _ _ => rfl)
    unfold listen
    cases Prover.wakes w.prover with
    | none =>
      dsimp only
      split
      · exact ends _
      · exact .refl w
    | some moment =>
      dsimp only
      split
      · split
        · exact ends _
        · exact .refl w
      · split
        · exact .refl w
        · have passed := w.passTo_relays (max moment w.clock)
          have told := @relays_push _ (w.passTo (max moment w.clock))
            ((w.passTo (max moment w.clock)).consult Prover.deliver).1 _ rfl rfl
          have heard := passed.trans told
          split
          · exact heard
          · exact (heard.trans (instruct_relays _ Prover.await fun _ _ => rfl)).trans (ih _ _)

/-! ## Dialogues in a world -/

/-- The questions that a world answers, each with the world afterwards. A question that it does not answer within a
limit is asked in vain; then a condition holds of the world that it leaves. -/
def following (limit : Option Nat) (paused : World σ → Prop) : Contract (World σ) where
  asks w q := ∀ p, (w.answer limit q).2 = .inr p → paused (w.answer limit q).1
  answers w q r w' := w.answer limit q = (w', .inl r)

theorem run_follows {α : Type} {limit : Option Nat} {paused : World σ → Prop} {d : Dialogue α}
    {post : α → World σ → Prop} {w : World σ} (leads : d.Leads (following limit paused) post w) :
    (∃ w' a, w.run limit d = (w', .inl a) ∧ post a w') ∨ ∃ w' p, w.run limit d = (w', .inr p) ∧ paused w' := by
  induction d generalizing w with
  | done a => exact .inl ⟨w, a, rfl, leads⟩
  | ask q next ih =>
    obtain ⟨waits, answered⟩ := leads
    cases answer : w.answer limit q with
    | mk w₁ reply =>
      cases reply with
      | inl r =>
        rw [run, answer]
        exact ih r (answered r w₁ answer)
      | inr p =>
        refine .inr ⟨w₁, ⟨q, p, next⟩, by rw [run, answer], ?_⟩
        have stopped := waits p (by rw [answer])
        rwa [answer] at stopped

/-- A question that is answered at once. -/
theorem follows_once {limit : Option Nat} {w v : World σ} {paused : World σ → Prop} {q : Query} {r : q.Reply}
    (answer : w.answer limit q = (v, .inl r)) {post : q.Reply → World σ → Prop} (next : post r v) :
    (following limit paused).asks w q ∧
      ∀ r' w', (following limit paused).answers w q r' w' → post r' w' := by
  constructor
  · intro p waits
    rw [answer] at waits
    cases waits
  · intro r' w' answers
    obtain ⟨rfl, rfl⟩ : v = w' ∧ r = r' := by simpa [following, answer] using answers
    exact next

variable {limit : Option Nat} {paused : World (Tapped σ) → Prop}

/-- What an exchange takes is told, whether the answer comes or is waited for in vain. -/
theorem follows_listen {x : Exchange} {post : Transcript → World (Tapped σ) → Prop}
    (next : ∀ heard w', w.Relays w' → post heard w') (waits : ∀ w', w.Relays w' → paused w') :
    (following limit paused).asks w (.listen x) ∧
      ∀ r w', (following limit paused).answers w (.listen x) r w' → post r w' := by
  have begun : w.Relays (w.instruct Prover.await) := instruct_relays w Prover.await fun _ _ => rfl
  have relays : w.Relays (w.answer limit (.listen x)).1 := by
    have heard := begun.trans ((w.instruct Prover.await).listen_relays limit x
      (Prover.load (w.instruct Prover.await).prover + 1) ⟨w.clock, x.begin, []⟩)
    rw [answer, resume]
    split
    · next gives =>
      rw [gives] at heard
      exact heard
    · next gives =>
      rw [gives] at heard
      exact heard
  constructor
  · intro p _
    exact waits _ relays
  · intro r w' answers
    have same : (w.answer limit (.listen x)).1 = w' := congrArg Prod.fst answers
    exact next r w' (same ▸ relays)

end World

open World

namespace World
variable {σ : Type} {before : List Event} {w w₁ w₂ : World (Tapped σ)}

/-- What was said before a command is told up to the first exit notice, behind which nothing is heard; else whatever is
heard is told. -/
def RelaysAfter (before : List Event) (w w' : World (Tapped σ)) : Prop :=
  ∃ heard, w.Passes (before ++ heard) (texts (beforeExit before) ++ texts heard) w' ∧
    (fromExit before ≠ [] → heard = [])

theorem relaysAfter (taken : w.Passes before (texts (beforeExit before)) w₁) (none : fromExit before = [])
    (relays : w₁.Relays w₂) : w.RelaysAfter before w₂ := by
  obtain ⟨heard, passes⟩ := relays
  exact ⟨heard, taken.trans passes, fun some => absurd none some⟩

theorem RelaysAfter.silent (after : w.RelaysAfter before w₁) (taken : w₂.prover.taken = w₁.prover.taken)
    (feed : w₂.feed = w₁.feed) : w.RelaysAfter before w₂ := by
  obtain ⟨heard, passes, nothing⟩ := after
  exact ⟨heard, ⟨taken.trans passes.taken, feed ▸ passes.told⟩, nothing⟩

variable [Prover σ]

/-- What a command finds said, if it may be sent. -/
def said (w : World (Tapped σ)) (e : Engine) : List Event :=
  if e.inFlight then [] else (Prover.drain w.clock w.prover.prover).2

end World

namespace Engine
variable {σ : Type} [Prover σ] {w : World (Tapped σ)} {limit : Option Nat} {paused : World (Tapped σ) → Prop}

/-- How a command fails, if an exit notice is found before it. -/
def EndsBy (before : List Event) (fault : Fault) : Prop :=
  ∀ code expected behind, fromExit before = .exited code expected :: behind → fault = .exited code

/-- What was said before a command is told up to the first exit notice, which ends the command. -/
theorem takeStale_relays (c : Counter) (events : List Event) (e : Engine) (w : World (Tapped σ)) :
    (takeStale c events).Leads (following limit paused)
      (fun _ e' w' => e' = e ∧ fromExit events = [] ∧ w.Passes [] (texts (beforeExit events)) w')
      (fun fault _ w' => fromExit events ≠ [] ∧ EndsBy events fault ∧ w.Passes [] (texts (beforeExit events)) w')
      e w := by
  induction events generalizing c w with
  | nil => exact ⟨rfl, rfl, .refl w⟩
  | cons event rest ih =>
    have tells : ∀ text c', event.text? = some text → event.isExit = false →
        takeStale c (event :: rest) = (Act.ask (.publish (.rawOutput text)) >>= fun _ => takeStale c' rest) →
        (takeStale c (event :: rest)).Leads (following limit paused)
          (fun _ e' w' => e' = e ∧ fromExit (event :: rest) = [] ∧
            w.Passes [] (texts (beforeExit (event :: rest))) w')
          (fun fault _ w' => fromExit (event :: rest) ≠ [] ∧ EndsBy (event :: rest) fault ∧
            w.Passes [] (texts (beforeExit (event :: rest))) w') e w := by
      intro text c' prints stays step
      have first := w.push_passes text
      have before : texts (beforeExit (event :: rest)) = [text] ++ texts (beforeExit rest) := by
        simp [texts, beforeExit, stays, prints]
      have behind : fromExit (event :: rest) = fromExit rest := by simp [fromExit, stays]
      unfold EndsBy
      rw [step, before, behind, Act.leads_bind, Act.leads_ask]
      refine follows_once rfl ((ih c' _).mono ?_ ?_)
      · rintro _ e' w' ⟨same, none, passes⟩
        exact ⟨same, none, first.trans passes⟩
      · rintro fault e' w' ⟨some, ended, passes⟩
        exact ⟨some, ended, first.trans passes⟩
    cases event with
    | output chunk => exact tells chunk _ rfl rfl rfl
    | complaint line => exact tells line _ rfl rfl rfl
    | exited code expected =>
      refine ⟨List.cons_ne_nil _ _, ?_, .refl w⟩
      rintro _ _ _ ⟨⟩
      rfl

theorem exchange_relays (text : String) (x : Exchange) (e : Engine) (waits : ∀ w', w.Relays w' → paused w') :
    (exchange text x).Leads (following limit paused) (fun _ _ w' => w.Relays w') (fun _ _ w' => w.Relays w') e w := by
  have sends : w.Relays (w.consult fun now => Prover.send now text).1 :=
    ⟨[], by simp [consult, Prover.send, Tapped.around], by simp [consult, texts]⟩
  simp only [exchange, Act.leads_bind, Act.leads_ask]
  refine follows_once (v := (w.consult fun now => Prover.send now text).1)
    (r := (w.consult fun now => Prover.send now text).2) rfl ?_
  rw [Act.leads_orFail]
  generalize w.consult (fun now => Prover.send now text) = sent at sends ⊢
  obtain ⟨w₁, sent⟩ := sent
  cases sent with
  | error fault => exact sends
  | ok sent =>
    refine follows_listen ?_ ?_
    · intro heard w' relays
      rw [Act.leads_orFail]
      cases x.conclude x.begin heard with
      | error fault => exact sends.trans relays
      | ok counter => exact sends.trans relays
    · intro w' relays
      exact waits w' (sends.trans relays)

theorem roundTrip_relays (text : String) (expected : Nat) (e : Engine) (w : World (Tapped σ)) :
    (roundTrip text expected).Leads
      (following limit fun w' => fromExit (w.said e) = [] ∧ w.RelaysAfter (w.said e) w')
      (fun _ _ w' => fromExit (w.said e) = [] ∧ w.RelaysAfter (w.said e) w')
      (fun fault _ w' => EndsBy (w.said e) fault ∧ w.RelaysAfter (w.said e) w') e w := by
  unfold roundTrip
  simp only [Act.leads_bind, Act.leads_get]
  by_cases busy : e.inFlight = true
  · have nothing : w.said e = [] := by simp [said, busy]
    simp only [busy, ↓reduceIte, Act.leads_bind, Act.leads_throw, nothing]
    exact ⟨fun _ _ _ found => (by cases found), [], .refl w, fun _ => rfl⟩
  have drained : w.said e = (w.consult Prover.drain).2 := by simp only [said, busy, Bool.false_eq_true, ↓reduceIte]; rfl
  have takes : w.Passes (w.consult Prover.drain).2 [] (w.consult Prover.drain).1 := ⟨rfl, (List.append_nil _).symm⟩
  rw [drained]
  simp only [busy, Bool.false_eq_true, ↓reduceIte, Act.leads_bind, Act.leads_ask]
  refine follows_once (v := (w.consult Prover.drain).1) (r := (w.consult Prover.drain).2) rfl ?_
  refine (takeStale_relays _ _ e _).mono ?_ ?_
  · rintro counter e' w₁ ⟨rfl, none, told⟩
    have first := takes.trans told
    rw [List.append_nil, List.nil_append] at first
    simp only [Act.leads_modify, Act.leads_attempt]
    apply (exchange_relays text _ _ fun w' relays => ⟨none, relaysAfter first none relays⟩).mono
    · rintro counter' e₁ w' relays
      exact ⟨none, relaysAfter first none relays⟩
    · rintro fault e₁ w' relays
      have ended : EndsBy (w.consult Prover.drain).2 fault := fun _ _ _ found => by rw [none] at found; cases found
      have after := relaysAfter first none relays
      by_cases loses : fault.losesPosition = true
      · simpa [loses] using ⟨ended, after⟩
      · simpa [loses] using ⟨ended, after⟩
  · rintro fault e' w₁ ⟨some, ended, told⟩
    refine ⟨ended, [], ?_, fun _ => rfl⟩
    have first := takes.trans told
    rw [List.append_nil, List.nil_append] at first
    simpa [texts] using first

theorem submit_follows (text : String) (expected : Nat) (e : Engine) (w : World (Tapped σ)) :
    (submit text expected).Leads
      (following limit fun w' => fromExit (w.said e) = [] ∧ w.RelaysAfter (w.said e) w')
      (fun _ _ w' => fromExit (w.said e) = [] ∧ w.RelaysAfter (w.said e) w')
      (fun fault _ w' => EndsBy (w.said e) fault ∧ w.RelaysAfter (w.said e) w') e w := by
  unfold submit
  simp only [Act.leads_bind, Act.leads_attempt]
  apply (roundTrip_relays text expected e w).mono
  · rintro r e' w' after
    simpa only [Act.leads_modify, Act.leads_pure, Act.leads_bind] using after
  · rintro fault e' w' ⟨ended, after⟩
    by_cases loses : fault.losesPosition = true
    · simp only [loses, ↓reduceIte, Act.leads_bind, Act.leads_modify, Act.leads_ask, Act.leads_throw]
      exact follows_once (v := w'.instruct Prover.stop) (r := ()) rfl ⟨ended, after.silent rfl rfl⟩
    · simp only [loses, Bool.false_eq_true, ↓reduceIte, Act.leads_throw]
      exact ⟨ended, after⟩

/-- However far a command comes, what it takes is told up to an exit notice that it finds, which ends it. -/
theorem submit_runs (limit : Option Nat) (w : World (Tapped σ)) (e : Engine) (text : String) (expected : Nat) :
    ∃ w' outcome, w.run limit ((submit text expected).run.run e) = (w', outcome) ∧ w.RelaysAfter (w.said e) w' ∧
      ∀ code expected behind, fromExit (w.said e) = .exited code expected :: behind →
        ∃ e', outcome = .inl (.error (.exited code), e') := by
  have none_ends : ∀ {outcome : Except Fault Response × Engine ⊕ Paused (Except Fault Response × Engine)},
      fromExit (w.said e) = [] → ∀ code expected behind, fromExit (w.said e) = .exited code expected :: behind →
        ∃ e', outcome = .inl (.error (.exited code), e') :=
    fun none _ _ _ found => by rw [none] at found; cases found
  obtain ⟨w', ⟨result, e'⟩, runs, ends⟩ | ⟨w', p, runs, none, after⟩ :=
    run_follows (@submit_follows _ _ limit text expected e w)
  · cases result with
    | ok r => exact ⟨w', _, runs, ends.2, none_ends ends.1⟩
    | error fault =>
      refine ⟨w', _, runs, ends.2, fun code expected behind found => ⟨e', ?_⟩⟩
      rw [ends.1 code expected behind found]
  · exact ⟨w', _, runs, after, none_ends none⟩

end Engine

/-- A command takes what the prover has said, and what it says then, and the host is told it in the order in which it
was taken, except for what is found behind an exit notice. An exit notice that is found ends the command, so that
nothing is heard then. Nothing is kept from the host just if no text stands behind an exit notice. -/
theorem submit_relays {σ : Type} [Prover σ] (limit : Option Nat) (w : World (Tapped σ)) (e : Engine) (text : String)
    (expected : Nat) :
    ∃ heard w' outcome, w.run limit ((Engine.submit text expected).run.run e) = (w', outcome) ∧
      w'.prover.taken = w.prover.taken ++ (w.said e ++ heard) ∧
      w'.feed.texts = w.feed.texts ++ (texts (beforeExit (w.said e)) ++ texts heard) ∧
      (∀ code expected behind, fromExit (w.said e) = .exited code expected :: behind →
        heard = [] ∧ ∃ e', outcome = .inl (.error (.exited code), e')) ∧
      (w'.feed.texts = w.feed.texts ++ texts (w.said e ++ heard) ↔ texts (fromExit (w.said e)) = []) := by
  obtain ⟨w', outcome, runs, ⟨heard, passes, nothing⟩, ended⟩ := Engine.submit_runs limit w e text expected
  refine ⟨heard, w', outcome, runs, passes.taken, passes.told, ?_, ?_⟩
  · intro code expected behind found
    exact ⟨nothing (by rw [found]; exact List.cons_ne_nil _ _), ended code expected behind found⟩
  · rw [passes.told, texts_append, texts_split (w.said e)]
    simp

/-- A process has died with a complaint. Its last words come behind the notice of its exit: the next command takes them,
and keeps them from the host. -/
theorem last_words_kept :
    ∃ (w : World (Tapped Echo)) (w' : World (Tapped Echo)) (e' : Engine),
      w.run none ((Engine.submit "a." 1).run.run Desk.standard.engine) =
        (w', .inl (.error (.exited (some 1)), e')) ∧
      w'.prover.taken = [.complaint "dying", .exited (some 1) false, .output "last words\n"] ∧
      w'.feed.texts = ["dying"] ∧ w'.feed.texts ≠ texts w'.prover.taken := by
  let dead : Tapped Echo := { prover := { queue :=
    [(0, .complaint "dying"), (0, .exited (some 1) false), (0, .output "last words\n")] } }
  let w : World (Tapped Echo) := { prover := dead }
  obtain ⟨heard, w', outcome, runs, taken, told, ended, -⟩ := submit_relays none w Desk.standard.engine "a." 1
  obtain ⟨rfl, e', rfl⟩ := ended (some 1) false [.output "last words\n"] rfl
  have takes : w'.prover.taken = [.complaint "dying", .exited (some 1) false, .output "last words\n"] := taken
  have tells : w'.feed.texts = ["dying"] := told
  refine ⟨w, w', e', runs, takes, tells, ?_⟩
  rw [takes, tells]
  decide

end Frontier
