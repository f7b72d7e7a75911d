import Frontier.Proofs.Command
import Frontier.Proofs.Listening

/-!
# Commands to an echo prover

What comes of each command that the engine submits to a live echo prover: texts that are all accepted, a text that is
rejected or deadly after some that are accepted, and an undo that is granted or refused. The startup prompt of a lazy
start is passed over.
-/

namespace Frontier.Engine
open Text Ledger

/-- The exchange of a command that passes the startup prompt over. -/
def exchangeOf (e : Engine) (expected : Nat) : Exchange :=
  ⟨e.rules, expected, {}, e.settings.quiet expected, e.settings.commandTimeout⟩

/-- What is required of the engine and of the prover before a command. -/
structure Ready (e : Engine) (v : View) : Prop where
  settings : e.settings = {}
  rules : e.rules = Rules.standard
  gate : e.inFlight = false
  runs : v.running = true
  free : v.scripts = []
  queue : v.queue = if e.startupPending then [(0, banner)] else []

/-- The engine after an answer. -/
def answered (e : Engine) (r : Response) : Engine :=
  { e with
    inFlight := false
    startupPending := e.startupPending && r.segments.isEmpty
    lastOutput := r.display }

/-- The engine after a failure that leaves the prover's position unknown. -/
def lost (e : Engine) (fault : Fault) : Engine :=
  { e with inFlight := true, undo := e.undo.invalidate (.positionLost fault.message) }

variable {e : Engine} {v : View}

theorem banner_find : (Marker.find ("banner\n" ++ Echo.markerLine 0)).isEmpty = false := by decide +kernel

theorem takeStale_leads (ready : Ready e v) {failed : Fault → Engine → View → Prop}
    {post : Counter → Engine → View → Prop} (next : post {} e { v with queue := [] }) :
    (takeStale (if e.startupPending then .awaiting e.rules.initialId else {}) (v.queue.map (·.2))).Leads contract post
      failed e { v with queue := [] } := by
  rw [ready.queue]
  by_cases pending : e.startupPending = true
  · simp only [pending, ↓reduceIte, List.map_cons, List.map_nil, banner, takeStale, banner_find, Bool.false_eq_true,
      Act.leads_bind, Act.leads_ask, Act.leads_pure]
    exact World.contract_single (r := ()) (fun w same => ⟨{ w with feed := w.feed.push _ }, rfl, same⟩) next
  · simp only [pending, Bool.false_eq_true, ↓reduceIte, List.map_nil, takeStale, Act.leads_pure]
    exact next

/-- A command is sent, and the answer is heard. -/
theorem submit_leads (ready : Ready e v) {text : String} {expected : Nat} {ok : Response → Engine → View → Prop}
    {failed : Fault → Engine → View → Prop}
    (sends : contract.asks { v with queue := [] } (.send text) ∧
      ∀ sent v', contract.answers { v with queue := [] } (.send text) sent v' → sent = .ok () ∧
        contract.asks v' (.listen (exchangeOf e expected)) ∧
          ∀ heard v'', contract.answers v' (.listen (exchangeOf e expected)) heard v'' →
            match (exchangeOf e expected).conclude (exchangeOf e expected).begin heard with
            | .ok counter => ok (.ofCounter e.rules counter) (e.answered (.ofCounter e.rules counter)) v''
            | .error fault => fault.losesPosition = true ∧ failed fault (e.lost fault) v''.stopped) :
    (submit text expected).Leads contract ok failed e v := by
  obtain ⟨asked, goes⟩ := sends
  simp only [submit, roundTrip, Act.leads_bind, Act.leads_attempt, Act.leads_get, ready.gate, Bool.false_eq_true,
    ↓reduceIte, Act.leads_ask]
  refine asks_drain (takeStale_leads ready ?_)
  simp only [Act.leads_modify, exchange, Act.leads_bind, Act.leads_ask]
  refine ⟨asked, fun sent v' taken => ?_⟩
  obtain ⟨rfl, listens, ends⟩ := goes sent v' taken
  refine ⟨listens, fun heard v'' came => ?_⟩
  have ends := ends heard v'' came
  simp only [Act.leads_orFail]
  change Act.Ends _ _ ((exchangeOf e expected).conclude (exchangeOf e expected).begin heard, _) _
  cases concluded : (exchangeOf e expected).conclude (exchangeOf e expected).begin heard with
  | ok counter =>
    simp only [concluded] at ends
    exact ends
  | error fault =>
    simp only [concluded] at ends
    obtain ⟨loses, fails⟩ := ends
    simp only [Act.ends_error, loses, Bool.not_true, Bool.false_eq_true, ↓reduceIte, Act.leads_throw, Act.leads_bind,
      Act.leads_modify, Act.leads_ask]
    exact asks_stop fails

/-! ## What comes of a command -/

theorem conclude_answer {x : Exchange} {chunk : String} (complete : x.complete (x.counter.feed chunk) = true) :
    x.conclude x.begin [(0, some (.output chunk))] = .ok (x.counter.feed chunk) := by
  simp [Exchange.conclude, Exchange.endsAt, Exchange.begin, Exchange.hear, complete, Exchange.verdict]

theorem conclude_exit {x : Exchange} {code : Option Int} {expected : Bool} {outs : List String}
    (timeout : 1 ≤ x.timeout) (few : outs = [] ∨ ∃ out, outs = [out] ∧ x.complete (x.counter.feed out) = false) :
    x.conclude x.begin (outs.map (fun out => (0, some (.output out))) ++ [(1, some (.exited code expected))]) =
      .error (.exited code) := by
  have early : ¬ x.timeout < 1 := by omega
  rcases few with rfl | ⟨out, rfl, open'⟩
  · simp [Exchange.conclude, Exchange.endsAt, Exchange.begin, Exchange.hear, early]
  · simp [Exchange.conclude, Exchange.endsAt, Exchange.begin, Exchange.hear, open', early]

section
variable {text : String} {texts more : List String} {t : String} (ready : Ready e v)
include ready

/-- An answer that is complete. -/
theorem submit_answer {expected id : Nat} {accepted : List String} {chunk : String} {c : Counter}
    (sends : ∀ {post : Except Fault Unit → View → Prop},
      post (.ok ()) (View.heard { v with queue := [] } text id [(0, .output chunk)] accepted) →
      contract.asks { v with queue := [] } (.send text) ∧
        ∀ r v', contract.answers { v with queue := [] } (.send text) r v' → post r v')
    (feeds : ({} : Counter).feed chunk = c) (complete : (exchangeOf e expected).complete c = true) :
    (submit text expected).Leads contract
      (fun r e' v' => r = .ofCounter Rules.standard c ∧ e' = e.answered r ∧ v' = v.taken text id accepted)
      (fun _ _ _ => False) e v := by
  subst feeds
  refine submit_leads ready (sends ⟨rfl, asks_listen_answer rfl ready.runs complete ?_⟩)
  rw [conclude_answer complete, ready.rules]
  exact ⟨rfl, rfl, rfl⟩

/-- Every text is accepted. -/
theorem submit_sound (some : texts ≠ []) (noUndo : Echo.undoTarget? text = none)
    (reads : (Statement.all text).map (·.text) = texts) (sounds : ∀ t ∈ texts, Echo.sound t = true)
    (plain : ∀ t ∈ texts, '[' ∉ t.toList) (small : v.id + texts.length ≤ maxWord) :
    (submit text texts.length).Leads contract
      (fun r e' v' => r = ⟨Echo.segments v.id texts, none⟩ ∧ e' = e.answered r ∧
        v' = v.taken text (v.id + texts.length) (v.accepted ++ texts)) (fun _ _ _ => False) e v := by
  have complete : (exchangeOf e texts.length).complete (({} : Counter).feed (Echo.printed v.id texts)) = true := by
    simp [Exchange.complete, exchangeOf, Echo.feed_printed some plain small, Counter.responses, Echo.segments_length]
  rw [← Echo.ofCounter_printed some plain small]
  exact submit_answer ready (asks_send_sound (v := { v with queue := [] }) ready.runs ready.free noUndo reads sounds)
    rfl complete

/-- An answer that ends with an error. -/
theorem submit_error (before : List String) (error : String) (accepted : List String) {expected : Nat}
    {message : String} (sends : ∀ {post : Except Fault Unit → View → Prop},
      post (.ok ()) (View.heard { v with queue := [] } text (v.id + before.length)
        [(0, .output (Echo.printed v.id before ++ error ++ Echo.markerLine (v.id + before.length)))] accepted) →
      contract.asks { v with queue := [] } (.send text) ∧
        ∀ r v', contract.answers { v with queue := [] } (.send text) r v' → post r v')
    (plain : ∀ t ∈ before, '[' ∉ t.toList) (small : v.id + before.length ≤ maxWord)
    (bare : Marker.Plain error.toList)
    (reports : Rules.standard.error?
      (Counter.segment error.toList (Echo.mark (v.id + before.length))).output = some message) :
    (submit text expected).Leads contract
      (fun r e' v' => r.error = some (before.length, message) ∧
        r.last? = some (Echo.mark (v.id + before.length)) ∧ e' = e.answered r ∧
        v' = v.taken text (v.id + before.length) accepted) (fun _ _ _ => False) e v := by
  have complete : (exchangeOf e expected).complete (({} : Counter).feed
      (Echo.printed v.id before ++ error ++ Echo.markerLine (v.id + before.length))) = true := by
    rw [Echo.feed_error plain small bare]
    simp [Exchange.complete, exchangeOf, ready.rules, reports]
  refine (submit_answer ready sends rfl complete).mono ?_ fun _ _ _ absurd => absurd
  rintro r e' v' ⟨response, rfl, rfl⟩
  rw [Echo.ofCounter_error plain small bare reports] at response
  refine ⟨by rw [response], ?_, rfl, rfl⟩
  rw [response]
  simp [Response.last?, Counter.segment]

/-- A text is rejected after some that are accepted. -/
theorem submit_fails (before : List String) (expected : Nat) (noUndo : Echo.undoTarget? text = none)
    (reads : (Statement.all text).map (·.text) = before ++ t :: more) (sounds : ∀ t ∈ before, Echo.sound t = true)
    (lives : Echo.crashes t = false) (bad : Echo.fails t = true) (plain : ∀ t ∈ before, '[' ∉ t.toList)
    (bare : '[' ∉ t.toList) (small : v.id + before.length ≤ maxWord) :
    (submit text expected).Leads contract
      (fun r e' v' => r.error = some (before.length, Echo.rejection t) ∧
        r.last? = some (Echo.mark (v.id + before.length)) ∧ e' = e.answered r ∧
        v' = v.taken text (v.id + before.length) (v.accepted ++ before)) (fun _ _ _ => False) e v := by
  have chars : ("[error-1-0-1-4]cannot prove: " ++ t ++ "\n").toList =
      "[error-".toList ++ ("1-0-1-4".toList ++ ']' :: ("cannot prove: ".toList ++ (t.toList ++ ['\n']))) := by
    simp [String.toList_append]
  refine submit_error ready before ("[error-1-0-1-4]cannot prove: " ++ t ++ "\n") (v.accepted ++ before)
    (fun next => ?_) plain small ?_ ?_
  · have chunk : Echo.printed v.id before ++ "[error-1-0-1-4]cannot prove: " ++ t ++ "\n" ++
        Echo.markerLine (v.id + before.length) = Echo.printed v.id before ++
          ("[error-1-0-1-4]cannot prove: " ++ t ++ "\n") ++ Echo.markerLine (v.id + before.length) := by
      rw [← String.toList_inj]
      simp only [String.toList_append, List.append_assoc]
    rw [← chunk] at next
    exact asks_send_fails (v := { v with queue := [] }) ready.runs ready.free noUndo reads sounds lives bad next
  · rw [chars]
    exact Echo.plain_error (by simpa using bare)
  · rw [Echo.rejection, chars]
    exact Echo.error?_segment (by decide) _

/-- The process dies of a text, after some that are accepted. -/
theorem submit_crashes (before : List String) {expected : Nat} (few : before.length < expected)
    (noUndo : Echo.undoTarget? text = none)
    (reads : (Statement.all text).map (·.text) = before ++ t :: more) (sounds : ∀ t ∈ before, Echo.sound t = true)
    (dies : Echo.crashes t = true) (plain : ∀ t ∈ before, '[' ∉ t.toList) (small : v.id + before.length ≤ maxWord) :
    (submit text expected).Leads contract (fun _ _ _ => False)
      (fun fault e' v' => fault = .exited (some 139) ∧ e' = e.lost fault ∧
        v' = { v.taken text (v.id + before.length) (v.accepted ++ before) with running := false }) e v := by
  have timeout : 1 ≤ (exchangeOf e expected).timeout := by
    simp [exchangeOf, ready.settings]
  have ends : ∀ outs : List String,
      outs = [] ∨ (∃ out, outs = [out] ∧ (exchangeOf e expected).complete (({} : Counter).feed out) = false) →
      (if (Echo.printed v.id before).isEmpty then [] else [(0, Event.output (Echo.printed v.id before))]) =
        outs.map (fun out => (0, Event.output out)) →
      (submit text expected).Leads contract (fun _ _ _ => False)
        (fun fault e' v' => fault = .exited (some 139) ∧ e' = e.lost fault ∧
          v' = { v.taken text (v.id + before.length) (v.accepted ++ before) with running := false }) e v := by
    intro outs few queue
    refine submit_leads ready
      (asks_send_crashes (v := { v with queue := [] }) ready.runs ready.free noUndo reads sounds dies ⟨rfl, ?_⟩)
    refine asks_listen_exit (some 139) false outs rfl timeout ?_ few ?_
    · rw [← queue]
      rfl
    · rw [conclude_exit timeout few]
      exact ⟨rfl, rfl, rfl, rfl⟩
  by_cases empty : (Echo.printed v.id before).isEmpty = true
  · exact ends [] (.inl rfl) (by simp [empty])
  · have some : before ≠ [] := by
      rintro rfl
      exact empty rfl
    have open' : (exchangeOf e expected).complete (({} : Counter).feed (Echo.printed v.id before)) = false := by
      simp only [Echo.feed_printed some plain small, Exchange.complete, exchangeOf, ready.rules, Counter.responses,
        Echo.segments_length, Nat.not_le.mpr few, decide_false, Bool.false_or, List.any_eq_false]
      intro s mem
      simp [Echo.error?_segments plain s mem]
    exact ends [Echo.printed v.id before] (.inr ⟨_, rfl, open'⟩) (by simp [empty])

/-- An undo is granted. -/
theorem submit_undo {target : Nat} (undo : Echo.undoTarget? text = some target) (granted : v.rejectsUndo = false)
    (known : target ≤ v.id) (small : target ≤ maxWord) :
    (submit text 1).Leads contract
      (fun r e' v' => r.error = none ∧ r.last? = some (Echo.mark target) ∧ e' = e.answered r ∧
        v' = v.taken text target (v.accepted.take target)) (fun _ _ _ => False) e v := by
  have feeds : ({} : Counter).feed (Echo.printed target [] ++ "" ++ Echo.markerLine (target + ([] : List String).length)) = _ :=
    Echo.feed_error (by simp) small trivial
  have chunk : Echo.printed target [] ++ "" ++ Echo.markerLine (target + 0) = Echo.markerLine target := by
    simp [Echo.printed]
  simp only [List.length_nil, chunk] at feeds
  have silent : Rules.standard.error? (Counter.segment [] (Echo.mark target)).output = none :=
    Rules.error?_none (by simp [Counter.segment, trimBoth])
  have trailing : Rules.standard.error? "\n" = none := Rules.error?_none (by decide)
  refine (submit_answer ready
    (asks_send_undo (v := { v with queue := [] }) ready.runs ready.free undo granted known) feeds ?_).mono ?_
    fun _ _ _ absurd => absurd
  · simp [Exchange.complete, exchangeOf, Counter.responses, Echo.segments]
  · rintro r e' v' ⟨response, rfl, rfl⟩
    refine ⟨?_, ?_, rfl, rfl⟩
    · rw [response]
      simp only [Response.ofCounter, Echo.segments, List.nil_append, Response.firstError, String.toList_empty, Nat.add_zero,
        silent]
      exact (congrArg _ trailing).trans rfl
    · rw [response]
      rfl

/-- An undo is refused. -/
theorem submit_refused {target : Nat} (undo : Echo.undoTarget? text = some target)
    (refused : v.rejectsUndo = true ∨ v.id < target) (small : v.id ≤ maxWord) :
    (submit text 1).Leads contract
      (fun r e' v' => r.error.isSome = true ∧ r.last? = some (Echo.mark v.id) ∧ e' = e.answered r ∧
        v' = v.taken text v.id v.accepted) (fun _ _ _ => False) e v := by
  have chars : ("[error-0-0-0-4]cannot undo to " ++ toString target ++ "\n").toList =
      "[error-".toList ++ ("0-0-0-4".toList ++ ']' :: ("cannot undo to ".toList ++ ((toString target).toList ++ ['\n']))) := by
    simp [String.toList_append]
  have bare : '[' ∉ (toString target).toList := fun mem => by
    have := digits_toString '[' mem
    simp at this
  refine (submit_error ready [] ("[error-0-0-0-4]cannot undo to " ++ toString target ++ "\n") v.accepted
    (fun next => ?_) (by simp) small ?_ (by rw [chars]; exact Echo.error?_segment (by decide) _)).mono ?_
    fun _ _ _ absurd => absurd
  · refine asks_send_refused (v := { v with queue := [] }) ready.runs ready.free undo refused ?_
    have chunk : Echo.printed v.id [] ++ ("[error-0-0-0-4]cannot undo to " ++ toString target ++ "\n") ++
        Echo.markerLine (v.id + 0) =
        "[error-0-0-0-4]cannot undo to " ++ toString target ++ "\n" ++ Echo.markerLine v.id := by
      simp [Echo.printed]
    rw [← chunk]
    exact next
  · rw [chars]
    exact Echo.plain_error (by simpa using bare)
  · rintro r e' v' ⟨error, last, rfl, rfl⟩
    exact ⟨by simp [error], last, rfl, rfl⟩

end

end Frontier.Engine
