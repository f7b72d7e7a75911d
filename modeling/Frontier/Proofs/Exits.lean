import Frontier.Proofs.Lifetime
import Mathlib.Algebra.Group.Nat.Defs
import Mathlib.Data.List.Nodup

/-!
# Exits of a session's processes

Whatever programs do, and whatever is asked of a session in any order, every process that was launched has one exit:
none is told twice, and none is lost, but that of many notices that wait only the last are kept. An exit is told as
expected just if the session had let go of the process before. A session that has let go of its process is attached to
none until it starts another, and its clock never goes back.
-/

namespace Frontier.Session
variable {σ : Type} {s : Session σ}

/-! ## Histories -/

/-- What is asked of a session. -/
inductive Call where
  | start
  | stop
  | halt (limit : Nat)
  | restart
  | drop
  | send (text : String)
  | read (wanted : Option Nat)
  | drain
  | notice
  | pass (moment : Nat)

/-- Whether a call lets go of the attached process. -/
def Call.leaves : Call → Bool
  | start | stop | halt _ | restart | drop => true
  | _ => false

/-- Whether a call starts a process. -/
def Call.starts : Call → Bool
  | start | restart => true
  | _ => false

/-- A session with the notices taken from it so far, and those that were not taken in time. -/
structure History (σ : Type) where
  session : Session σ
  taken : List ExitNotice := []
  missed : List ExitNotice := []

namespace History

/-- A session of which nothing has been asked. -/
def new (settings : Settings) (home : String) : History σ := { session := { settings, home } }

/-- All exits: those missed, those taken, those waiting to be taken, and those still to come. -/
def exits (h : History σ) : List (Uuid × Bool) :=
  (h.missed ++ h.taken).map ExitNotice.exit ++ h.session.exits

/-- The next notice that was kept is taken. -/
def take (h : History σ) : History σ where
  session := { h.session with notices := h.session.kept.tail }
  taken := h.taken ++ h.session.kept.head?.toList
  missed := h.missed ++ h.session.missed

variable {h h' h'' : History σ} {p : Process σ}

/-- Each process that was launched has one exit. -/
structure Accounted (h : History σ) : Prop where
  sound : h.session.Sound
  once : (h.exits.map Prod.fst).Perm ((List.range h.session.launched).map Uuid.ofNat)

/-- What holds from one moment of a history to the next. -/
structure Next (h h' : History σ) : Prop where
  accounted : h'.Accounted
  expected : ∀ id, (id, true) ∈ h.exits → (id, true) ∈ h'.exits
  now : h.session.now ≤ h'.session.now

theorem Accounted.next (acc : h.Accounted) : h.Next h := ⟨acc, fun _ => id, Nat.le_refl _⟩

theorem Next.trans (first : h.Next h') (next : h'.Next h'') : h.Next h'' where
  accounted := next.accounted
  expected id mem := next.expected id (first.expected id mem)
  now := Nat.le_trans first.now next.now

theorem Accounted.later (acc : h.Accounted) {s : Session σ} (later : h.session.Later s) :
    h.Next { h with session := s } where
  accounted := by
    refine ⟨later.sound, ?_⟩
    rw [exits, List.map_append, later.launched]
    refine (later.exits.append_left _).trans ?_
    rw [← List.map_append]
    exact acc.once
  expected id mem := by
    rcases List.mem_append.mp mem with mem | mem
    · exact List.mem_append_left _ mem
    · exact List.mem_append_right _ (later.expected id mem)
  now := later.now

/-- A process that is launched has its exit to come. -/
theorem Accounted.launch (acc : h.Accounted) (free : h.session.current = none)
    (session : p.session = .ofNat h.session.launched) (running : p.ended = false) (fresh : p.stopping = false) :
    h.Next { h with session := { h.session with launched := h.session.launched + 1, current := some p } } where
  accounted := by
    refine ⟨⟨by simpa using fresh, acc.sound.retired⟩, ?_⟩
    have idle : h.session.alive = [] := by simp [alive, free]
    have all := acc.once
    rw [exits, exits_idle idle, List.map_append (f := Prod.fst)] at all
    rw [exits, exits_running rfl running, List.range_succ, List.map_append (f := Uuid.ofNat),
      List.map_append (f := Prod.fst), List.map_cons, Process.exit, session]
    exact List.perm_middle.trans ((all.cons _).trans (List.perm_append_singleton _ _).symm)
  expected id mem := by
    have idle : h.session.alive = [] := by simp [alive, free]
    rw [exits, exits_idle idle] at mem
    rw [exits, exits_running rfl running]
    exact List.perm_middle.mem_iff.mpr (List.mem_cons_of_mem _ mem)
  now := Nat.le_refl _

/-- A notice that is taken or missed was waiting. -/
theorem exits_take (h : History σ) : h.take.exits.Perm h.exits := by
  have waiting : h.session.notices = h.session.missed ++ h.session.kept := (List.take_append_drop _ _).symm
  refine List.perm_iff_count.mpr fun exit => ?_
  simp only [exits, Session.exits, alive, take, waiting, List.map_append, List.count_append]
  cases h.session.kept with
  | nil =>
    simp only [List.head?_nil, Option.toList_none, List.tail_nil, List.map_nil, List.count_nil]
    omega
  | cons n rest =>
    simp only [List.head?_cons, Option.toList_some, List.tail_cons, List.map_cons, List.map_nil, List.count_cons,
      List.count_nil]
    omega

/-- Nothing is missed as long as not too many notices wait. -/
theorem missed_take (few : h.session.notices.length ≤ noticeCapacity) : h.take.missed = h.missed := by
  simp [take, Session.missed, Nat.sub_eq_zero_of_le few]

theorem Accounted.take (acc : h.Accounted) : h.Next h.take where
  accounted := ⟨⟨acc.sound.attached, acc.sound.retired⟩, (h.exits_take.map _).trans acc.once⟩
  expected _ := h.exits_take.mem_iff.mpr
  now := Nat.le_refl _

theorem accounted_new (settings : Settings) (home : String) : (new settings home : History σ).Accounted :=
  ⟨⟨by simp [new], by simp [new]⟩, .refl _⟩

/-- As long as identifiers do not repeat, a notice of a process says what its exit was to be. -/
theorem Accounted.notice_exit (acc : h.Accounted) (few : h.session.launched ≤ 2 ^ 128) {id : Uuid} {expected : Bool}
    (mem : (id, expected) ∈ h.exits) :
    ∀ n ∈ h.missed ++ h.taken ++ h.session.notices, n.session = id → n.expected = expected := by
  have distinct : (h.exits.map Prod.fst).Nodup := by
    refine acc.once.nodup_iff.mpr (List.Nodup.map_on ?_ List.nodup_range)
    intro m below n below' same
    rw [List.mem_range] at below below'
    have bits := congrArg (fun u : Uuid => u.bits.toNat) same
    simp only [Uuid.ofNat, BitVec.toNat_ofNat] at bits
    rwa [Nat.mod_eq_of_lt (by omega), Nat.mod_eq_of_lt (by omega)] at bits
  intro n told rfl
  have own : n.exit ∈ h.exits := by
    rcases List.mem_append.mp told with told | waits
    · exact List.mem_append_left _ (List.mem_map_of_mem told)
    · exact List.mem_append_right _ (List.mem_append_right _ (List.mem_map_of_mem waits))
  exact congrArg Prod.snd (List.inj_on_of_nodup_map distinct own mem rfl)

end History

variable [Program σ]

/-- What a call leads to. -/
def call (s : Session σ) : Call → Session σ
  | .start => s.start.1
  | .stop => s.stop
  | .halt limit => s.halt limit
  | .restart => s.restart.1
  | .drop => s.drop
  | .send text => (s.send text).1
  | .read wanted => (s.read wanted).1
  | .drain => s.drain.1
  | .notice => s.notice.1
  | .pass moment => s.passTo moment

/-- One more call. -/
def History.call (h : History σ) : Call → History σ
  | .notice =>
    let (session, notice) := h.session.notice
    { session, taken := h.taken ++ notice.toList, missed := h.missed ++ h.session.awaitNotice.missed }
  | c => { h with session := h.session.call c }

theorem History.call_session (h : History σ) (c : Call) : (h.call c).session = h.session.call c := by
  cases c <;> rfl

/-- Calls one after the other. -/
def History.calls (h : History σ) (cs : List Call) : History σ := cs.foldl History.call h

/-- A start stops the attached process, and then launches another one, unless that fails. -/
theorem start_cases (s : Session σ) : s.start.1 = s.stop ∨ ∃ p : Process σ,
    p.session = .ofNat s.stop.launched ∧ p.ended = false ∧ p.stopping = false ∧
      (s.start.1 = { s.stop with launched := s.stop.launched + 1, current := some p } ∨
        s.start.1 = (awaitPrompt { s.stop with launched := s.stop.launched + 1, current := some p } p).1) := by
  simp only [start]
  split
  · exact .inl rfl
  · next program _ =>
    refine .inr ⟨{ session := .ofNat s.stop.launched, program, clock := s.stop.now }, rfl, rfl, rfl, ?_⟩
    split
    · exact .inr rfl
    · exact .inl rfl

theorem current_leave (s : Session σ) (kill : Nat) : (s.leave kill).current = none := by
  rw [leave]
  split
  · assumption
  · rfl

namespace History
variable {h : History σ} {p : Process σ}

/-- A start goes on from where the attached process has been stopped. -/
theorem Accounted.launched (acc : h.Accounted) :
    Next { h with session := h.session.stop } { h with session := h.session.start.1 } := by
  have stopped := (acc.later acc.sound.stop).accounted
  rcases start_cases h.session with same | ⟨p, session, running, fresh, same | same⟩
  · rw [same]
    exact stopped.next
  · rw [same]
    exact stopped.launch (current_leave _ _) session running fresh
  · rw [same]
    have launched := stopped.launch (current_leave _ _) session running fresh
    exact launched.trans (launched.accounted.later (launched.accounted.sound.awaitPrompt rfl))

theorem Accounted.start (acc : h.Accounted) : h.Next { h with session := h.session.start.1 } :=
  (acc.later acc.sound.stop).trans acc.launched

/-- Whatever is called next, exits stay accounted for, and expected ones expected. -/
theorem Accounted.call (acc : h.Accounted) (c : Call) : h.Next (h.call c) := by
  cases c with
  | start => exact acc.start
  | stop => exact acc.later acc.sound.stop
  | halt limit => exact acc.later (acc.sound.halt limit)
  | restart =>
    have halted := acc.later (acc.sound.halt h.session.settings.stopWait)
    exact halted.trans halted.accounted.start
  | drop => exact acc.later acc.sound.drop
  | send text => exact acc.later (acc.sound.send text).later
  | read wanted => exact acc.later (acc.sound.read wanted).later
  | drain => exact acc.later acc.sound.drain.later
  | notice =>
    have waited := acc.later acc.sound.awaitNotice.later
    exact waited.trans waited.accounted.take
  | pass moment => exact acc.later (acc.sound.passTo moment).later

theorem Accounted.calls (acc : h.Accounted) (cs : List Call) : h.Next (h.calls cs) := by
  induction cs generalizing h with
  | nil => exact acc.next
  | cons c rest ih => exact (acc.call c).trans (ih (acc.call c).accounted)

/-- A process that a call lets go while it runs has its exit expected. -/
theorem Accounted.left (acc : h.Accounted) {c : Call} (leaves : c.leaves = true) (alive : p ∈ h.session.alive) :
    (p.session, true) ∈ (h.call c).exits := by
  have stops : (p.session, true) ∈ h.session.stop.exits := (acc.sound.leave _).2 p alive
  have halts : ∀ limit, (p.session, true) ∈ (h.session.halt limit).exits := by
    intro limit
    rw [Session.halt]
    split
    · exact stops
    · have left := acc.sound.leave (h.session.now + ticks limit)
      exact (left.1.sound.passTo _).later.expected _ (left.2 p alive)
  cases c with
  | start => exact acc.launched.expected _ (List.mem_append_right _ stops)
  | stop => exact List.mem_append_right _ stops
  | halt limit => exact List.mem_append_right _ (halts limit)
  | restart =>
    have halted := (acc.later (acc.sound.halt h.session.settings.stopWait)).accounted
    exact halted.start.expected _ (List.mem_append_right _ (halts h.session.settings.stopWait))
  | drop => exact List.mem_append_right _ ((acc.sound.leave _).2 p alive)
  | _ => cases leaves

/-- A call that does not let go of the process leaves exits as they were to be. -/
theorem Accounted.kept (acc : h.Accounted) {c : Call} (kept : c.leaves = false) : (h.call c).exits.Perm h.exits := by
  have quiet : ∀ {s : Session σ}, h.session.Still s → (exits { h with session := s }).Perm h.exits :=
    fun still => still.exits.append_left _
  cases c with
  | send text => exact quiet (acc.sound.send text)
  | read wanted => exact quiet (acc.sound.read wanted)
  | drain => exact quiet acc.sound.drain
  | notice => exact (exits_take _).trans (quiet acc.sound.awaitNotice)
  | pass moment => exact quiet (acc.sound.passTo moment)
  | _ => cases kept

theorem Accounted.kept_calls (acc : h.Accounted) {cs : List Call} (kept : ∀ c ∈ cs, c.leaves = false) :
    (h.calls cs).exits.Perm h.exits := by
  induction cs generalizing h with
  | nil => exact .refl _
  | cons c rest ih =>
    obtain ⟨first, others⟩ := List.forall_mem_cons.mp kept
    exact (ih (acc.call c).accounted others).trans (acc.kept first)

/-! ## What holds of every history -/

/-- A history of some session. -/
def Reached (h : History σ) : Prop := ∃ settings home cs, h = (new settings home).calls cs

theorem Reached.accounted (reached : h.Reached) : h.Accounted := by
  obtain ⟨settings, home, cs, rfl⟩ := reached
  exact ((accounted_new settings home).calls cs).accounted

/-- No exit is lost, and none is told twice: every process that was launched has exactly one, which has been taken or
missed, waits to be, or is to come since the process runs. -/
theorem Reached.exits_once (reached : h.Reached) :
    (h.exits.map Prod.fst).Perm ((List.range h.session.launched).map Uuid.ofNat) :=
  reached.accounted.once

/-- The clock never goes back. -/
theorem Reached.now_le_calls (reached : h.Reached) (cs : List Call) : h.session.now ≤ (h.calls cs).session.now :=
  (reached.accounted.calls cs).now

/-- The exit of a process that was let go while it ran is told as expected. -/
theorem Reached.expected_of_left (reached : h.Reached) {c : Call} (leaves : c.leaves = true)
    (alive : p ∈ h.session.alive) (cs : List Call) (few : ((h.call c).calls cs).session.launched ≤ 2 ^ 128) :
    ∀ n ∈ ((h.call c).calls cs).missed ++ ((h.call c).calls cs).taken ++ ((h.call c).calls cs).session.notices,
      n.session = p.session → n.expected = true := by
  have later := (reached.accounted.call c).accounted.calls cs
  exact later.accounted.notice_exit few (later.expected _ (reached.accounted.left leaves alive))

/-- The exit of a process that was not let go before is told as unexpected. -/
theorem Reached.unexpected_of_kept (reached : h.Reached) {cs : List Call} (kept : ∀ c ∈ cs, c.leaves = false)
    (alive : p ∈ h.session.alive) (few : (h.calls cs).session.launched ≤ 2 ^ 128) :
    ∀ n ∈ (h.calls cs).missed ++ (h.calls cs).taken ++ (h.calls cs).session.notices,
      n.session = p.session → n.expected = false := by
  have acc := reached.accounted
  have attached : p.stopping = false := acc.sound.attached p (by simpa using (List.mem_filter.mp alive).1)
  have mem : (p.session, false) ∈ h.exits := by
    rw [← attached]
    exact List.mem_append_right _ (List.mem_append_left _ (List.mem_map_of_mem (List.mem_append_left _ alive)))
  exact (acc.calls cs).accounted.notice_exit few ((acc.kept_calls kept).mem_iff.mpr mem)

end History

/-! ## Sessions that are attached to no process -/

/-- A call that starts no process attaches none. -/
theorem detached_call {c : Call} (starts : c.starts = false) (free : c.leaves = true ∨ s.current = none) :
    (s.call c).current = none := by
  have stays : c.leaves = false → s.current = none := fun kept => free.resolve_left (by simp [kept])
  cases c with
  | start => cases starts
  | restart => cases starts
  | stop => exact current_leave _ _
  | halt limit =>
    simp only [call, halt]
    split
    · exact current_leave _ _
    · simp [passTo, passWith, current_leave]
  | drop => exact current_leave _ _
  | send text => simp [call, send, stays rfl]
  | read wanted => simp [call, read, stays rfl]
  | drain => simp [call, drain, stays rfl]
  | notice =>
    simp only [call, notice, awaitNotice]
    split
    · simp [passTo, passWith, stays rfl]
    · exact stays rfl
  | pass moment => simp [call, passTo, passWith, stays rfl]

theorem History.detached_calls {h : History σ} (free : h.session.current = none) {cs : List Call}
    (starts : ∀ c ∈ cs, c.starts = false) : (h.calls cs).session.current = none := by
  induction cs generalizing h with
  | nil => exact free
  | cons c rest ih =>
    obtain ⟨first, others⟩ := List.forall_mem_cons.mp starts
    exact ih (by rw [call_session]; exact detached_call first (.inr free)) others

/-- A session that has let its process go runs none, and sends to none, until it starts another. An engine needs no
other promise to keep from sending anything to a lost process. -/
theorem stopped_until_started (h : History σ) {c : Call} (leaves : c.leaves = true) {cs : List Call}
    (starts : ∀ d ∈ c :: cs, d.starts = false) :
    ((h.call c).calls cs).session.running = false ∧
      ∀ text, (((h.call c).calls cs).session.send text).2 = .error .notRunning := by
  obtain ⟨first, others⟩ := List.forall_mem_cons.mp starts
  have free : ((h.call c).calls cs).session.current = none :=
    History.detached_calls (by rw [h.call_session]; exact detached_call first (.inl leaves)) others
  exact ⟨by simp [running, free], fun text => by simp [send, free]⟩

theorem detached_of_prompt_error {p : Process σ} {fault : Fault} (failed : (s.awaitPrompt p).2 = .error fault) :
    (s.awaitPrompt p).1.current = none := by
  revert failed
  simp only [awaitPrompt]
  split
  · intro failed
    cases failed
  · exact fun _ => current_leave _ _
  · exact fun _ => current_leave _ _

/-- A start that fails leaves the session attached to no process. -/
theorem detached_of_start_error {fault : Fault} (failed : s.start.2 = .error fault) : s.start.1.current = none := by
  revert failed
  simp only [start]
  split
  · exact fun _ => current_leave _ _
  · split
    · exact detached_of_prompt_error
    · intro failed
      cases failed

end Frontier.Session
