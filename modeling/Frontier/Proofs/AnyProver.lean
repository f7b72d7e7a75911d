import Frontier.Proofs.Completion
import Frontier.Proofs.Course

/-!
# Commands to any prover

What a command, a start and a stop make of the engine, whatever the prover does. A watch that attends to the answers
to commands learns what came of each one; all else that an exchange asks leaves it as it is.
-/

namespace Frontier
variable {σ : Type}

/-- Whether a fault says that a recovery fell short, which no prover is asked about. -/
def Fault.short : Fault → Bool
  | .stoppedShort .. => true
  | _ => false

/-- A watch under which anything may be asked. It attends to starts, stops, commands and answers, and what a prover
itself reports as a fault is of a kind. -/
structure Watch.Attends (W : Watch σ) (own : Fault → Prop) : Prop where
  allows : ∀ s q, W.Allows s q
  started : ∀ {s fault}, W.Admits s .start (.error fault) → own fault
  sent : ∀ {s text fault}, W.Admits s (.send text) (.error fault) → own fault
  running : ∀ s running, W.after s .running running = s
  publish : ∀ s n r, W.after s (.publish n) r = s
  time : ∀ s time, W.after s .time time = s
  drain : ∀ s events, W.after s .drain events = s
  unheard : ∀ {s x heard fault}, Exchange.conclude x x.begin heard = .error fault → W.after s (.listen x) heard = s

/-! ## How an exchange ends -/

namespace Exchange

theorem complete_ne_nil {x : Exchange} {c : Counter} (expects : 1 ≤ x.expected) (whole : x.complete c = true) :
    c.segments ≠ [] := by
  intro none
  simp only [complete, Counter.responses, none, List.length_nil, List.any_nil, Bool.or_false, decide_eq_true_eq]
    at whole
  omega

/-- An exchange that ends with an answer has heard a marker. -/
theorem conclude_ne_nil {x : Exchange} {heard : Transcript} {c : Counter} (expects : 1 ≤ x.expected)
    (concluded : x.conclude x.begin heard = .ok c) : c.segments ≠ [] :=
  complete_ne_nil expects (conclude_complete (by simp [begin]) concluded)

/-- No exchange ends with a recovery that fell short. -/
theorem conclude_short {x : Exchange} {l : Listening} {heard : Transcript} {fault : Fault}
    (concluded : x.conclude l heard = .error fault) : fault.short = false := by
  have verdict : ∀ {l : Listening}, x.verdict l = .error fault → fault.short = false := by
    intro l ended
    unfold Exchange.verdict at ended
    split at ended
    · cases ended
    · cases ended
      rfl
  fun_induction conclude x l heard with
  | case1 l => exact verdict concluded
  | case2 l time heard rest late => exact verdict concluded
  | case3 l time heard rest early l' heard' ih => exact ih concluded
  | case4 l time heard rest early fault' heard' =>
    cases concluded
    cases heard with
    | none =>
      cases heard'
      rfl
    | some event =>
      cases event with
      | exited code expected =>
        cases heard'
        rfl
      | output chunk => cases heard'
      | complaint line => cases heard'

end Exchange

/-! ## Commands -/

namespace Engine

/-- An engine that reads the same document and holds the same region for verified. -/
structure SameRegion (e e' : Engine) : Prop where
  rules : e'.rules = e.rules
  document : e'.document = e.document
  version : e'.version = e.version
  outline : e'.outline = e.outline
  offset : e'.offset = e.offset
  proved : e'.proved = e.proved

theorem SameRegion.refl (e : Engine) : e.SameRegion e := ⟨rfl, rfl, rfl, rfl, rfl, rfl⟩

theorem SameRegion.trans {e₁ e₂ e₃ : Engine} (first : e₁.SameRegion e₂) (second : e₂.SameRegion e₃) :
    e₁.SameRegion e₃ where
  rules := second.rules.trans first.rules
  document := second.document.trans first.document
  version := second.version.trans first.version
  outline := second.outline.trans first.outline
  offset := second.offset.trans first.offset
  proved := second.proved.trans first.proved

/-- A fault that only the prover can have reported. -/
def Reported (own : Fault → Prop) (fault : Fault) : Prop := fault.short = true → own fault

/-- The engine after a start. -/
def opened (e : Engine) (greeting : Greeting) : Engine :=
  { e with
    inFlight := false
    startupPending := greeting.marker.isNone
    undo := .startingAt ((greeting.marker.map (·.id)).getD e.rules.initialId)
    offset := 0
    proved := 0 }

/-- A command was answered. -/
structure Answered (W : Watch σ) (text : String) (expected : Nat) (e : Engine) (s : σ) (r : Response) (e' : Engine)
    (s' : σ) : Prop where
  region : e.SameRegion e'
  undo : e'.undo = e.undo
  heard : ∃ x heard counter, x.rules = e.rules ∧ x.expected = expected ∧ x.conclude x.begin heard = .ok counter ∧
    r = .ofCounter x.rules counter ∧ s' = W.after (W.after s (.send text) (.ok ())) (.listen x) heard

/-- A command was sent, or was not. -/
def Tried (W : Watch σ) (text : String) (s s' : σ) : Prop := s' = s ∨ ∃ sent, s' = W.after s (.send text) sent

/-- A command has failed, and if the prover's position is lost, its process was stopped. -/
structure Failed (W : Watch σ) (own : Fault → Prop) (text : String) (e : Engine) (s : σ) (fault : Fault) (e' : Engine)
    (s' : σ) : Prop where
  region : e.SameRegion e'
  reported : Reported own fault
  state : (e'.undo = e.undo ∧ Tried W text s s') ∨
    (e'.undo = e.undo.invalidate (.positionLost fault.message) ∧ ∃ s₁, Tried W text s s₁ ∧ s' = W.after s₁ .stop ())

variable {W : Watch σ} {own : Fault → Prop} (attends : W.Attends own)
include attends

theorem takeStale_attended (c : Counter) (events : List Event) (e : Engine) (s : σ) :
    (takeStale c events).Leads W.contract (fun _ e' s' => e' = e ∧ s' = s)
      (fun fault e' s' => e' = e ∧ s' = s ∧ fault.short = false) e s := by
  have passes : ∀ text (rest : Act Counter) {ok : Counter → Engine → σ → Prop} {failed : Fault → Engine → σ → Prop},
      rest.Leads W.contract ok failed e s →
      (Act.ask (.publish (.rawOutput text)) >>= fun _ => rest).Leads W.contract ok failed e s := by
    intro text rest ok failed leads
    simp only [Act.leads_bind, Act.leads_ask, Watch.contract_asks, Watch.contract_answers]
    refine ⟨attends.allows _ _, ?_⟩
    rintro r s' ⟨-, same⟩
    rw [same, attends.publish]
    exact leads
  induction events generalizing c with
  | nil => simp [takeStale]
  | cons event rest ih =>
    cases event with
    | output chunk => exact passes chunk _ (ih _)
    | complaint line => exact passes line _ (ih c)
    | exited code expected => exact ⟨rfl, rfl, rfl⟩

theorem exchange_attended (text : String) (x : Exchange) (e : Engine) (s : σ) :
    (exchange text x).Leads W.contract
      (fun counter e' s' => e' = e ∧ ∃ heard, x.conclude x.begin heard = .ok counter ∧
        s' = W.after (W.after s (.send text) (.ok ())) (.listen x) heard)
      (fun fault e' s' => e' = e ∧ Tried W text s s' ∧ Reported own fault) e s := by
  simp only [exchange, Act.leads_bind, Act.leads_ask, Watch.contract_asks, Watch.contract_answers]
  refine ⟨attends.allows _ _, ?_⟩
  rintro sent s' ⟨admitted, rfl⟩
  cases sent with
  | error fault => exact ⟨rfl, .inr ⟨_, rfl⟩, fun _ => attends.sent admitted⟩
  | ok sent =>
    refine ⟨attends.allows _ _, ?_⟩
    rintro heard s'' ⟨-, rfl⟩
    rw [Act.leads_orFail]
    cases concluded : x.conclude x.begin heard with
    | ok counter => exact ⟨rfl, heard, concluded, rfl⟩
    | error fault =>
      exact ⟨rfl, .inr ⟨_, attends.unheard concluded⟩, by simp [Reported, Exchange.conclude_short concluded]⟩

theorem roundTrip_attended (text : String) (expected : Nat) (e : Engine) (s : σ) :
    (roundTrip text expected).Leads W.contract (fun r => Answered W text expected e s r)
      (fun fault e' s' => e.SameRegion e' ∧ e'.undo = e.undo ∧ Tried W text s s' ∧ Reported own fault) e s := by
  unfold roundTrip
  simp only [Act.leads_bind, Act.leads_get]
  by_cases busy : e.inFlight = true
  · simp [busy, SameRegion.refl, Tried, Reported, Fault.short]
  simp only [busy, Bool.false_eq_true, ↓reduceIte, Act.leads_bind, Act.leads_ask, Watch.contract_asks,
    Watch.contract_answers]
  refine ⟨attends.allows _ _, ?_⟩
  rintro events s' ⟨-, same⟩
  obtain rfl : s' = s := same.trans (attends.drain s events)
  apply (takeStale_attended attends _ events e s').mono
  · rintro counter e' s'' ⟨rfl, rfl⟩
    simp only [Act.leads_modify, Act.leads_attempt]
    apply (exchange_attended attends text _ _ s'').mono
    · rintro counter' e₁ s₁ ⟨rfl, heard, concluded, rfl⟩
      exact ⟨⟨rfl, rfl, rfl, rfl, rfl, rfl⟩, rfl, _, heard, counter', rfl, rfl, concluded, rfl, rfl⟩
    · rintro fault e₁ s₁ ⟨rfl, tried, reported⟩
      have region : ∀ b, e'.SameRegion { e' with inFlight := b } := fun _ => ⟨rfl, rfl, rfl, rfl, rfl, rfl⟩
      by_cases loses : fault.losesPosition = true
      · simpa [loses] using ⟨region true, tried, reported⟩
      · simpa [loses] using ⟨region false, tried, reported⟩
  · rintro fault e' s'' ⟨rfl, rfl, notShort⟩
    exact ⟨.refl _, rfl, .inl rfl, by simp [Reported, notShort]⟩

/-- A command is answered, or it fails. -/
theorem submit_attended (text : String) (expected : Nat) (e : Engine) (s : σ) :
    (submit text expected).Leads W.contract (fun r => Answered W text expected e s r)
      (fun fault => Failed W own text e s fault) e s := by
  unfold submit
  simp only [Act.leads_bind, Act.leads_attempt]
  apply (roundTrip_attended attends text expected e s).mono
  · rintro r e' s' ⟨region, undo, heard⟩
    simp only [Act.leads_modify, Act.leads_pure]
    exact ⟨region.trans ⟨rfl, rfl, rfl, rfl, rfl, rfl⟩, undo, heard⟩
  · rintro fault e' s' ⟨region, undo, tried, reported⟩
    by_cases loses : fault.losesPosition = true
    · simp only [loses, ↓reduceIte, Act.leads_bind, Act.leads_modify, Act.leads_ask, Watch.contract_asks,
        Watch.contract_answers, Act.leads_throw]
      refine ⟨attends.allows _ _, ?_⟩
      rintro _ s'' ⟨-, rfl⟩
      exact ⟨region.trans ⟨rfl, rfl, rfl, rfl, rfl, rfl⟩, reported, .inr ⟨by rw [undo], s', tried, rfl⟩⟩
    · simp only [loses, Bool.false_eq_true, ↓reduceIte, Act.leads_throw]
      exact ⟨region, reported, .inl ⟨undo, tried⟩⟩

theorem startSession_attended (e : Engine) (s : σ) :
    startSession.Leads W.contract
      (fun _ e' s' => ∃ greeting, e' = e.opened greeting ∧ s' = W.after s .start (.ok greeting))
      (fun fault e' s' => e' = e ∧ Reported own fault ∧ s' = W.after s .start (.error fault)) e s := by
  simp only [startSession, Act.leads_bind, Act.leads_ask, Watch.contract_asks, Watch.contract_answers]
  refine ⟨attends.allows _ _, ?_⟩
  rintro greeting s' ⟨admitted, rfl⟩
  cases greeting with
  | error fault => exact ⟨rfl, fun _ => attends.started admitted, rfl⟩
  | ok greeting => exact ⟨greeting, rfl, rfl⟩

theorem haltSession_attended (e : Engine) (s : σ) :
    haltSession.Leads W.contract (fun _ e' s' => e' = e ∧ s' = W.after s (.halt e.settings.stopWait) ())
      (fun _ _ _ => False) e s := by
  simp only [haltSession, Act.leads_bind, Act.leads_get, Act.leads_ask, Watch.contract_asks, Watch.contract_answers]
  refine ⟨attends.allows _ _, ?_⟩
  rintro _ s' ⟨-, rfl⟩
  exact ⟨trivial, rfl⟩

/-- Whether an attempt to undo is granted: nothing is sent, or the log differs from the count, or the command fails or
is refused, or else it is done. -/
theorem tryUndo_attended {target : Nat} {e : Engine} {s : σ} {undone : Bool → Engine → σ → Prop}
    (stays : undone false e s)
    (differs : e.undo.valid = true → e.undo.size ≠ e.proved →
      undone false { e with undo := e.undo.invalidate (.countMismatch e.undo.size e.proved) } s)
    (fails : ∀ state fault e' s', Failed W own (e.rules.undo state) e s fault e' s' → undone false e' s')
    (refused : ∀ state r e' s', Answered W (e.rules.undo state) 1 e s r e' s' → r.error.isSome = true →
      undone false e' s')
    (granted : ∀ state r e' s', e.undo.undoTarget? e.proved (e.outline.countUpTo target) = some state →
      Answered W (e.rules.undo state) 1 e s r e' s' → r.error = none → undone true { e' with
        undo := e'.undo.undone (e.outline.countUpTo target) ((r.last?.map (·.id)).getD state)
        proved := e.outline.countUpTo target
        offset := target } s') :
    (tryUndo target).Leads W.contract undone (fun _ _ _ => False) e s := by
  unfold tryUndo
  simp only [Act.leads_bind, Act.leads_get]
  by_cases valid : e.undo.valid = true
  · by_cases busy : e.inFlight = true
    · simpa [valid, busy] using stays
    simp only [valid, Bool.not_true, Bool.false_eq_true, ↓reduceIte, busy, Act.leads_bind, Act.leads_ask,
      Watch.contract_asks, Watch.contract_answers]
    refine ⟨attends.allows _ _, ?_⟩
    rintro running s' ⟨-, same⟩
    obtain rfl : s' = s := same.trans (attends.running s running)
    cases running with
    | false => exact stays
    | true =>
      by_cases torn : e.undo.size ≠ e.proved
      · rw [if_neg (by simp), if_pos torn]
        exact differs valid torn
      rw [if_neg (by simp), if_neg torn]
      cases found : e.undo.undoTarget? e.proved (e.outline.countUpTo target) with
      | none => exact stays
      | some state =>
        simp only [Act.leads_bind, Act.leads_attempt]
        refine (submit_attended attends _ 1 e s').mono ?_ (fun fault e₁ s₁ failed => fails state fault e₁ s₁ failed)
        intro r e₁ s₁ answered
        cases error : r.error with
        | some error' => exact refused state r e₁ s₁ answered (by rw [error]; rfl)
        | none => exact granted state r e₁ s₁ found answered error
  · simpa [valid] using stays

theorem attended_quiet : Quiet W.contract where
  publish s n := ⟨attends.allows _ _, fun r _ answered => answered.2.trans (attends.publish s n r)⟩
  time s := ⟨attends.allows _ _, fun r _ answered => answered.2.trans (attends.time s r)⟩

end Engine
end Frontier
