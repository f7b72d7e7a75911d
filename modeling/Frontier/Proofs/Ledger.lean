import Frontier.Prover.Echo
import Frontier.Proofs.World

/-!
# The ledger of an echo prover

The echo prover does not remember which statements it has accepted. The ledger runs it unchanged and writes them down:
the texts that the present process has accepted and not undone, in order. What the engine can tell of a ledger is its
view.
-/

namespace Frontier
open Text

namespace Echo

/-- The process dies of the text. -/
def crashes (text : String) : Bool := occurs "crash".toList text.toList

/-- The text is rejected, unless the process dies of it. -/
def fails (text : String) : Bool := occurs "fail".toList text.toList

/-- The text is accepted. -/
def sound (text : String) : Bool := !crashes text && !fails text

/-- What is printed for accepted texts from a state on. -/
def printed (id : Nat) : List String → String
  | [] => ""
  | text :: rest => "+ " ++ text ++ "\n" ++ markerLine (id + 1) ++ printed (id + 1) rest

theorem execute_sound (p : Echo) (chunk : String) {ss more : List Statement}
    (sounds : ∀ s ∈ ss, sound s.text = true) : p.execute chunk (ss ++ more) =
      ({ p with id := p.id + ss.length } : Echo).execute (chunk ++ printed p.id (ss.map (·.text))) more := by
  induction ss generalizing p chunk with
  | nil => simp [printed]
  | cons s rest ih =>
    obtain ⟨first, others⟩ := List.forall_mem_cons.mp sounds
    obtain ⟨lives, passes⟩ : crashes s.text = false ∧ fails s.text = false := by simpa [sound] using first
    rw [crashes] at lives
    rw [fails] at passes
    rw [List.cons_append, execute, lives, passes, if_neg (by simp), if_neg (by simp), ih _ _ others]
    simp [printed, String.append_assoc, Nat.add_assoc, Nat.add_comm 1]

/-- The three ways in which a command ends that is no undo. -/
theorem respond_sound (p : Echo) {text : String} {texts : List String} (noUndo : undoTarget? text = none)
    (reads : (Statement.all text).map (·.text) = texts) (sounds : ∀ t ∈ texts, sound t = true) :
    p.respond text = ({ p with id := p.id + texts.length } : Echo).queueUp 0 (.output (printed p.id texts)) := by
  subst reads
  have each : ∀ s ∈ Statement.all text, sound s.text = true := fun s mem => sounds _ (List.mem_map_of_mem mem)
  have run : p.execute "" (Statement.all text ++ []) = _ := execute_sound p "" each
  rw [List.append_nil] at run
  rw [respond, noUndo]
  simp only [run, execute, String.empty_append, List.length_map]

theorem split_reads {text : String} {before after : List String} {t : String}
    (reads : (Statement.all text).map (·.text) = before ++ t :: after) :
    ∃ ss s more, Statement.all text = ss ++ s :: more ∧ ss.map (·.text) = before ∧ s.text = t := by
  obtain ⟨ss, rest, same, rfl, tail⟩ := List.map_eq_append_iff.mp reads
  obtain ⟨s, more, rfl, rfl, -⟩ := List.map_eq_cons_iff.mp tail
  exact ⟨ss, s, more, same, rfl, rfl⟩

theorem respond_fails (p : Echo) {text : String} {before after : List String} {t : String}
    (noUndo : undoTarget? text = none) (reads : (Statement.all text).map (·.text) = before ++ t :: after)
    (sounds : ∀ t ∈ before, sound t = true) (lives : crashes t = false) (bad : fails t = true) :
    p.respond text = ({ p with id := p.id + before.length } : Echo).queueUp 0
      (.output (printed p.id before ++ "[error-1-0-1-4]cannot prove: " ++ t ++ "\n" ++
        markerLine (p.id + before.length))) := by
  obtain ⟨ss, s, more, same, rfl, rfl⟩ := split_reads reads
  have each : ∀ s ∈ ss, sound s.text = true := fun s mem => sounds _ (List.mem_map_of_mem mem)
  rw [crashes] at lives
  rw [fails] at bad
  rw [respond, noUndo]
  simp only [same]
  rw [execute_sound p "" each, execute]
  simp only [lives, bad, Bool.false_eq_true, ↓reduceIte, String.empty_append, List.length_map]

theorem respond_crashes (p : Echo) {text : String} {before after : List String} {t : String}
    (noUndo : undoTarget? text = none) (reads : (Statement.all text).map (·.text) = before ++ t :: after)
    (sounds : ∀ t ∈ before, sound t = true) (dies : crashes t = true) :
    p.respond text = (if (printed p.id before).isEmpty then { p with id := p.id + before.length }
      else ({ p with id := p.id + before.length } : Echo).queueUp 0 (.output (printed p.id before))).die := by
  obtain ⟨ss, s, more, same, rfl, rfl⟩ := split_reads reads
  have each : ∀ s ∈ ss, sound s.text = true := fun s mem => sounds _ (List.mem_map_of_mem mem)
  rw [crashes] at dies
  rw [respond, noUndo]
  simp only [same]
  rw [execute_sound p "" each, execute]
  simp only [dies, ↓reduceIte, String.empty_append, List.length_map]

end Echo

/-- An echo prover with the texts that its present process has accepted and not undone. -/
structure Ledger where
  echo : Echo := {}
  accepted : List String := []

namespace Ledger

/-- What has been accepted and not undone after a command. An undo keeps as many as the number of the state that it
restores. -/
def after (l : Ledger) (text : String) : List String :=
  if !l.echo.running || !l.echo.scripts.isEmpty then l.accepted
  else match Echo.undoTarget? text with
    | some target => if l.echo.rejectsUndo || l.echo.id < target then l.accepted else l.accepted.take target
    | none => l.accepted ++ ((Statement.all text).map (·.text)).takeWhile Echo.sound

instance : Prover Ledger where
  running _ l := (l, l.echo.running)
  stop _ l := { l with echo := l.echo.stop }
  halt now _ l := ({ l with echo := l.echo.stop }, now)
  beginStart now l := (l, now)
  endStart _ l := (⟨l.echo.start.1, []⟩, .ok l.echo.start.2)
  drain _ l := ({ l with echo := l.echo.drain.1 }, l.echo.drain.2)
  send _ text l := (⟨(l.echo.send text).1, l.after text⟩, (l.echo.send text).2)
  await now l := { l with echo := l.echo.await now }
  wakes l := l.echo.wakes
  deliver _ l := ({ l with echo := l.echo.deliver.1 }, l.echo.deliver.2)
  abandon l := { l with echo := { l.echo with waiting := none } }
  load l := l.echo.queue.length + 1
  notice _ l := l
  exits l := ({ l with echo := { l.echo with notices := [] } }, l.echo.notices)

/-- What decides how a ledger answers. -/
structure View where
  running : Bool
  id : Nat
  queue : List (Nat × Event)
  sent : List String
  starts : Nat
  rejectsUndo : Bool
  lazy : Bool
  scripts : List (List (Nat × Event))
  accepted : List String

/-- The view of a ledger. -/
def view (l : Ledger) : View :=
  ⟨l.echo.running, l.echo.id, l.echo.queue, l.echo.sent, l.echo.starts, l.echo.rejectsUndo, l.echo.lazy, l.echo.scripts,
    l.accepted⟩

/-- The contract of ledgers. -/
abbrev contract : Contract View := World.contract view

/-- The startup prompt. -/
def banner : Event := .output ("banner\n" ++ Echo.markerLine 0)

namespace View

/-- A process that was stopped. -/
def stopped (v : View) : View := if v.running then { v with running := false, queue := [] } else v

/-- A process that was started. -/
def started (v : View) : View :=
  { v with running := true, id := 0, starts := v.starts + 1, queue := if v.lazy then [(0, banner)] else [],
           accepted := [] }

end View

variable {v : View}

theorem asks_running {post : Bool → View → Prop} (next : post v.running v) :
    contract.asks v .running ∧ ∀ r v', contract.answers v .running r v' → post r v' :=
  World.contract_single (r := v.running) (fun w same => ⟨w, by rw [← same]; rfl, same⟩) next

theorem asks_stop {post : Unit → View → Prop} (next : post () v.stopped) :
    contract.asks v .stop ∧ ∀ r v', contract.answers v .stop r v' → post r v' := by
  refine World.contract_single (r := ()) (fun w same => ⟨_, rfl, ?_⟩) next
  rw [← same]
  by_cases runs : w.prover.echo.running <;>
    simp [World.instruct, Prover.stop, Echo.stop, Echo.publish, view, View.stopped, runs]

theorem asks_halt (limit : Nat) {post : Unit → View → Prop} (next : post () v.stopped) :
    contract.asks v (.halt limit) ∧ ∀ r v', contract.answers v (.halt limit) r v' → post r v' := by
  refine World.contract_single (r := ()) (fun w same => ⟨_, rfl, ?_⟩) next
  rw [← same]
  by_cases runs : w.prover.echo.running <;>
    simp [World.passTo, Echo.stop, Echo.publish, view, View.stopped, runs]

theorem asks_start {post : Except Fault Greeting → View → Prop}
    (next : post (.ok { marker := if v.lazy then none else some ⟨0, "check"⟩ }) v.started) :
    contract.asks v .start ∧ ∀ r v', contract.answers v .start r v' → post r v' := by
  refine World.contract_single (fun w same => ?_) next
  subst same
  by_cases lazy : w.prover.echo.lazy
  · refine ⟨(World.resume none w (.starting w.clock)).1, ?_, ?_⟩ <;>
      simp [World.answer, World.consult, World.resume, World.passTo, within, Prover.beginStart, Prover.endStart,
        Echo.start, Echo.queueUp, view, View.started, banner, lazy]
  · refine ⟨(World.resume none w (.starting w.clock)).1, ?_, ?_⟩ <;>
      simp [World.answer, World.consult, World.resume, World.passTo, within, Prover.beginStart, Prover.endStart,
        Echo.start, view, View.started, lazy]

theorem asks_drain {post : List Event → View → Prop} (next : post (v.queue.map (·.2)) { v with queue := [] }) :
    contract.asks v .drain ∧ ∀ r v', contract.answers v .drain r v' → post r v' := by
  refine World.contract_single (fun w same => ⟨(w.consult Prover.drain).1, ?_, ?_⟩) next <;>
    · subst same
      rfl

/-! ## Commands -/

/-- The view after a command that was taken. -/
def View.heard (v : View) (text : String) (id : Nat) (events : List (Nat × Event)) (accepted : List String) : View :=
  { v with id, queue := v.queue ++ events, sent := v.sent ++ [text], accepted }

/-- The view after a command and its answer. -/
def View.taken (v : View) (text : String) (id : Nat) (accepted : List String) : View :=
  { v with id, queue := [], sent := v.sent ++ [text], accepted }

/-- Between two views these commands were sent, and so many processes were started. -/
structure View.Traffic (v : View) (commands : List String) (starts : Nat) (v' : View) : Prop where
  sent : v'.sent = v.sent ++ commands
  starts : v'.starts = v.starts + starts

theorem View.Traffic.trans {v₁ v₂ : View} {first second : List String} {m n : Nat} (one : v.Traffic first m v₁)
    (two : v₁.Traffic second n v₂) : v.Traffic (first ++ second) (m + n) v₂ :=
  ⟨by rw [two.sent, one.sent, List.append_assoc], by rw [two.starts, one.starts, Nat.add_assoc]⟩

theorem View.taken_traffic (v : View) (text : String) (id : Nat) (accepted : List String) :
    v.Traffic [text] 0 (v.taken text id accepted) := ⟨rfl, rfl⟩

theorem View.restarted_traffic (v : View) : v.Traffic [] 1 v.stopped.started := by
  refine ⟨?_, ?_⟩ <;>
    · simp only [View.started, View.stopped]
      split <;> simp

theorem asks_send {text : String} {v' : View} (runs : v.running = true) (free : v.scripts = [])
    (responds : ∀ l : Ledger, l.view = v →
      (⟨({ l.echo with sent := l.echo.sent ++ [text] } : Echo).respond text, l.after text⟩ : Ledger).view = v')
    {post : Except Fault Unit → View → Prop} (next : post (.ok ()) v') :
    contract.asks v (.send text) ∧ ∀ r v', contract.answers v (.send text) r v' → post r v' := by
  refine World.contract_single (fun w same => ⟨(w.consult fun now => Prover.send now text).1, ?_, ?_⟩) next
  · subst same
    have runs : w.prover.echo.running = true := runs
    have free : w.prover.echo.scripts = [] := free
    simp [World.answer, World.consult, Prover.send, Echo.send, runs, free]
  · rw [← responds w.prover same]
    subst same
    have runs : w.prover.echo.running = true := runs
    have free : w.prover.echo.scripts = [] := free
    simp [World.consult, Prover.send, Echo.send, runs, free]

variable {text : String} (runs : v.running = true) (free : v.scripts = [])
include runs free

theorem after_none {l : Ledger} (same : l.view = v) (noUndo : Echo.undoTarget? text = none) :
    l.after text = v.accepted ++ ((Statement.all text).map (·.text)).takeWhile Echo.sound := by
  subst same
  have runs : l.echo.running = true := runs
  have free : l.echo.scripts = [] := free
  simp [after, runs, free, noUndo, view]

theorem asks_send_sound {texts : List String} (noUndo : Echo.undoTarget? text = none)
    (reads : (Statement.all text).map (·.text) = texts) (sounds : ∀ t ∈ texts, Echo.sound t = true)
    {post : Except Fault Unit → View → Prop}
    (next : post (.ok ()) (v.heard text (v.id + texts.length) [(0, .output (Echo.printed v.id texts))]
      (v.accepted ++ texts))) :
    contract.asks v (.send text) ∧ ∀ r v', contract.answers v (.send text) r v' → post r v' := by
  refine asks_send runs free (fun l same => ?_) next
  have accepted := after_none runs free same noUndo
  have all : texts.takeWhile Echo.sound = texts := by
    rw [← List.append_nil texts, List.takeWhile_append_of_pos sounds, List.takeWhile_nil]
  rw [reads, all] at accepted
  rw [accepted, Echo.respond_sound _ noUndo reads sounds]
  subst same
  rfl

theorem asks_send_fails {before more : List String} {t : String} (noUndo : Echo.undoTarget? text = none)
    (reads : (Statement.all text).map (·.text) = before ++ t :: more) (sounds : ∀ t ∈ before, Echo.sound t = true)
    (lives : Echo.crashes t = false) (bad : Echo.fails t = true) {post : Except Fault Unit → View → Prop}
    (next : post (.ok ()) (v.heard text (v.id + before.length)
      [(0, .output (Echo.printed v.id before ++ "[error-1-0-1-4]cannot prove: " ++ t ++ "\n" ++
        Echo.markerLine (v.id + before.length)))] (v.accepted ++ before))) :
    contract.asks v (.send text) ∧ ∀ r v', contract.answers v (.send text) r v' → post r v' := by
  refine asks_send runs free (fun l same => ?_) next
  have accepted := after_none runs free same noUndo
  have stops : Echo.sound t = false := by simp [Echo.sound, bad]
  rw [reads, List.takeWhile_append_of_pos sounds, List.takeWhile_cons, stops] at accepted
  rw [accepted, Echo.respond_fails _ noUndo reads sounds lives bad]
  subst same
  simp [view, View.heard, Echo.queueUp]

theorem asks_send_crashes {before more : List String} {t : String} (noUndo : Echo.undoTarget? text = none)
    (reads : (Statement.all text).map (·.text) = before ++ t :: more) (sounds : ∀ t ∈ before, Echo.sound t = true)
    (dies : Echo.crashes t = true) {post : Except Fault Unit → View → Prop}
    (next : post (.ok ()) { v.heard text (v.id + before.length)
      ((if (Echo.printed v.id before).isEmpty then [] else [(0, .output (Echo.printed v.id before))]) ++
        [(1, .exited (some 139) false)]) (v.accepted ++ before) with running := false }) :
    contract.asks v (.send text) ∧ ∀ r v', contract.answers v (.send text) r v' → post r v' := by
  refine asks_send runs free (fun l same => ?_) next
  have accepted := after_none runs free same noUndo
  have stops : Echo.sound t = false := by simp [Echo.sound, dies]
  rw [reads, List.takeWhile_append_of_pos sounds, List.takeWhile_cons, stops] at accepted
  rw [accepted, Echo.respond_crashes _ noUndo reads sounds dies]
  subst same
  by_cases empty : (Echo.printed l.echo.id before).isEmpty = true
  · simp [view, View.heard, Echo.queueUp, Echo.die, Echo.publish, empty]
  · simp [view, View.heard, Echo.queueUp, Echo.die, Echo.publish, empty]

theorem asks_send_undo {target : Nat} (undo : Echo.undoTarget? text = some target)
    (granted : v.rejectsUndo = false) (known : target ≤ v.id) {post : Except Fault Unit → View → Prop}
    (next : post (.ok ()) (v.heard text target [(0, .output (Echo.markerLine target))] (v.accepted.take target))) :
    contract.asks v (.send text) ∧ ∀ r v', contract.answers v (.send text) r v' → post r v' := by
  refine asks_send runs free (fun l same => ?_) next
  subst same
  have runs : l.echo.running = true := runs
  have free : l.echo.scripts = [] := free
  have granted : l.echo.rejectsUndo = false := granted
  have known : ¬ l.echo.id < target := Nat.not_lt.mpr known
  simp [Echo.respond, undo, Echo.undo, after, runs, free, granted, known, view, View.heard, Echo.queueUp]

theorem asks_send_refused {target : Nat} (undo : Echo.undoTarget? text = some target)
    (refused : v.rejectsUndo = true ∨ v.id < target) {post : Except Fault Unit → View → Prop}
    (next : post (.ok ()) (v.heard text v.id
      [(0, .output ("[error-0-0-0-4]cannot undo to " ++ toString target ++ "\n" ++ Echo.markerLine v.id))]
      v.accepted)) :
    contract.asks v (.send text) ∧ ∀ r v', contract.answers v (.send text) r v' → post r v' := by
  refine asks_send runs free (fun l same => ?_) next
  subst same
  have runs : l.echo.running = true := runs
  have free : l.echo.scripts = [] := free
  have refused : (l.echo.rejectsUndo || decide (l.echo.id < target)) = true := by
    simp only [Bool.or_eq_true, decide_eq_true_eq]
    exact refused
  simp only [Echo.respond, undo, Echo.undo, refused, ↓reduceIte]
  have kept : l.after text = l.accepted := by
    simp only [after, runs, free, undo, refused]
    simp
  rw [kept]
  rfl

end Ledger
end Frontier
