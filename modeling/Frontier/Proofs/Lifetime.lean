import Frontier.Session
import Mathlib.Data.List.Perm.Basic

/-!
# Processes and sessions as time passes

A process stays what it is whatever its program does: its identifier and whether it was asked to stop do not change,
and its exit tells just that. A session that lets time pass, sends, or listens keeps account of its processes: an exit
is still to come, or its notice waits to be taken. A session that leaves its process makes the exit an expected one.
-/

namespace Frontier
variable {σ : Type}

/-! ## Processes -/

namespace Process
variable {p q r : Process σ}

/-- `q` is the process `p` at a later moment. It may have ended, as what it was: asked to stop, or not. -/
structure Later (p q : Process σ) : Prop where
  session : q.session = p.session
  stopping : q.stopping = p.stopping
  ending : q.ending = p.ending ∨ ∃ e, q.ending = some e ∧ e.expected = p.stopping

theorem Later.refl (p : Process σ) : p.Later p := ⟨rfl, rfl, .inl rfl⟩

theorem Later.trans (first : p.Later q) (next : q.Later r) : p.Later r where
  session := next.session.trans first.session
  stopping := next.stopping.trans first.stopping
  ending := by
    rcases next.ending with same | ⟨e, ended, expected⟩
    · rw [same]
      exact first.ending
    · exact .inr ⟨e, ended, expected.trans first.stopping⟩

/-- What has ended stays so. -/
theorem Later.ended (later : p.Later q) (ended : p.ended = true) : q.ended = true := by
  rw [Process.ended] at *
  rcases later.ending with same | ⟨e, some, -⟩
  · rwa [same]
  · rw [some]
    rfl

/-- A process that had not ended has ended as what it was. -/
theorem Later.ending_of_ended (later : p.Later q) (running : p.ended = false) (ended : q.ended = true) :
    ∃ e, q.ending = some e ∧ e.expected = q.stopping := by
  rcases later.ending with same | ⟨e, some, expected⟩
  · rw [Process.ended, same, ← Process.ended, running] at ended
    cases ended
  · exact ⟨e, some, by rw [later.stopping, expected]⟩

/-- What will be told of a process's exit: who it was, and whether it was expected. -/
def exit (p : Process σ) : Uuid × Bool := (p.session, p.stopping)

theorem Later.exit (later : p.Later q) : q.exit = p.exit := by
  rw [Process.exit, later.session, later.stopping, Process.exit]

theorem later_readOutput (fuel : Nat) (bytes : List UInt8) (p : Process σ) : p.Later (p.readOutput fuel bytes) := by
  induction fuel generalizing bytes p with
  | zero => exact .refl p
  | succ fuel ih =>
    cases bytes with
    | nil => exact .refl p
    | cons b rest =>
      simp only [readOutput]
      refine Later.trans ?_ (ih _ _)
      exact ⟨rfl, rfl, .inl rfl⟩

theorem later_readErrors (bytes : List UInt8) (p : Process σ) : p.Later (p.readErrors bytes) := by
  simp only [readErrors]
  split <;> exact ⟨rfl, rfl, .inl rfl⟩

theorem later_closeStream (s : Stream) (p : Process σ) : p.Later (p.closeStream s) := by
  cases s <;> exact ⟨rfl, rfl, .inl rfl⟩

theorem later_notices (moment : Nat) (p : Process σ) (sign : Sign) : p.Later (p.notices moment sign) := by
  cases sign with
  | wrote s bytes =>
    cases s with
    | output =>
      simp only [notices]
      split
      · exact .refl p
      · exact later_readOutput _ _ p
    | errors =>
      simp only [notices]
      split
      · exact .refl p
      · exact later_readErrors bytes p
  | closed s =>
    rw [notices]
    split
    · exact .refl p
    · exact later_closeStream s p
  | ended code => exact ⟨rfl, rfl, .inr ⟨_, rfl, rfl⟩⟩

theorem later_after (p : Process σ) (moment : Nat) (result : List Sign × σ) : p.Later (p.after moment result) := by
  have signs : ∀ (signs : List Sign) (p : Process σ), p.Later (signs.foldl (notices moment) p) := by
    intro signs
    induction signs with
    | nil => exact .refl
    | cons sign rest ih => exact fun p => (later_notices moment p sign).trans (ih _)
  have told := signs result.1 { p with program := result.2 }
  exact ⟨told.session, told.stopping, told.ending⟩

variable [Program σ]

theorem later_step (p : Process σ) (moment : Nat) : p.Later (p.step moment) := by
  rw [step]
  split
  · have killed := later_after { p with killAt := none } moment (Program.kill p.program)
    exact ⟨killed.session, killed.stopping, killed.ending⟩
  · split
    · have given := later_after { p with hangUpAt := none } moment ([], Program.ignore .errors p.program)
      exact ⟨given.session, given.stopping, given.ending⟩
    · exact later_after p moment _

theorem later_run (limit : Nat) (enough : Process σ → Bool) (p : Process σ) : p.Later (p.run limit enough) := by
  fun_induction run limit enough p with
  | case1 p _ => exact .refl p
  | case2 p _ _ => exact ⟨rfl, rfl, .inl rfl⟩
  | case3 p _ moment _ _ q _ ih => exact (later_step p moment).trans ih
  | case4 p _ moment _ _ q _ => exact later_step p moment
  | case5 p _ moment _ _ => exact ⟨rfl, rfl, .inl rfl⟩

theorem later_write (limit : Nat) (bytes : List UInt8) (p : Process σ) : p.Later (p.write limit bytes).1 := by
  fun_induction write limit bytes p with
  | case1 p => exact .refl p
  | case2 p => exact .refl p
  | case3 p b rest _ _ _ ih => exact ⟨ih.session, ih.stopping, ih.ending⟩
  | case4 p b rest _ _ _ _ _ ih => exact (later_run _ _ p).trans ih
  | case5 p => exact later_run _ _ p

theorem later_read (limit : Nat) (wanted : Option Nat) (p : Process σ) (r : Reading) :
    p.Later (p.read limit wanted r).1 := by
  fun_induction Process.read limit wanted p r with
  | case1 p r _ => exact .refl p
  | case2 p r _ e rest _ ih => exact ⟨ih.session, ih.stopping, ih.ending⟩
  | case3 p r _ _ q _ ih => exact (later_run _ _ p).trans ih
  | case4 p r _ _ q _ => exact later_run _ _ p

end Process

/-- Who has exited, and whether that was expected. -/
def ExitNotice.exit (n : ExitNotice) : Uuid × Bool := (n.session, n.expected)

/-- Processes that have ended as what they were are noticed so. -/
theorem Process.exits_notices {ps : List (Process σ)}
    (ended : ∀ p ∈ ps, ∃ e, p.ending = some e ∧ e.expected = p.stopping) :
    (ps.filterMap notice?).map ExitNotice.exit = ps.map exit := by
  induction ps with
  | nil => rfl
  | cons p rest ih =>
    obtain ⟨⟨e, some, expected⟩, others⟩ := List.forall_mem_cons.mp ended
    have noticed : p.notice? = .some ⟨p.session, e.code, e.expected⟩ := by rw [notice?, some]; rfl
    rw [List.filterMap_cons_some noticed, List.map_cons, List.map_cons, ih others, ExitNotice.exit, exit, expected]

/-! ## Sessions -/

namespace Session
variable {s s' s'' : Session σ} {current : Option (Process σ)} {p : Process σ}

/-- The attached process, if it runs. -/
def alive (s : Session σ) : List (Process σ) := s.current.toList.filter fun p => !p.ended

/-- The exits that are still to come, and those that nobody has taken notice of. -/
def exits (s : Session σ) : List (Uuid × Bool) :=
  (s.alive ++ s.retired).map Process.exit ++ s.notices.map ExitNotice.exit

theorem exits_running (attached : s.current = some p) (running : p.ended = false) :
    s.exits = p.exit :: (s.retired.map Process.exit ++ s.notices.map ExitNotice.exit) := by
  simp [exits, alive, attached, running]

theorem exits_idle (idle : s.alive = []) :
    s.exits = s.retired.map Process.exit ++ s.notices.map ExitNotice.exit := by
  rw [exits, idle, List.nil_append]

/-- The attached process was not asked to stop; those that were left have been, and run. -/
structure Sound (s : Session σ) : Prop where
  attached : ∀ p ∈ s.current, p.stopping = false
  retired : ∀ p ∈ s.retired, p.stopping = true ∧ p.ended = false

/-- The attached process goes on to run, or has ended since; one that had ended before is neither. -/
theorem exits_attached (later : Option.Rel Process.Later s.current current) :
    ((current.toList.filter fun p => !p.ended) ++ (if s.running then current.filter (·.ended) else none).toList).map
      Process.exit = s.alive.map Process.exit := by
  rw [alive, running]
  generalize s.current = before at later
  cases later with
  | none => rfl
  | @some p q later =>
    cases ends : p.ended with
    | true => simp [ends, later.ended ends]
    | false => cases now : q.ended <;> simp [ends, now, later.exit]

/-- What has ended as time passed has ended as what it was. -/
theorem ended_attached (later : Option.Rel Process.Later s.current current) :
    ∀ q ∈ (if s.running then current.filter (·.ended) else none).toList,
      ∃ e, q.ending = some e ∧ e.expected = q.stopping := by
  rw [running]
  generalize s.current = before at later
  cases later with
  | none => simp
  | @some p q later =>
    intro q' mem
    cases ends : p.ended with
    | true => simp [ends] at mem
    | false =>
      obtain ⟨now, rfl⟩ : q.ended = true ∧ q = q' := by simpa [ends, Option.filter_some] using mem
      exact later.ending_of_ended ends now

/-- `s'` is the session `s` later: nothing was launched or left, and time has not gone back. -/
structure Still (s s' : Session σ) : Prop where
  sound : s'.Sound
  launched : s'.launched = s.launched
  exits : s'.exits.Perm s.exits
  now : s.now ≤ s'.now

theorem Sound.still (sound : s.Sound) : s.Still s := ⟨sound, rfl, .refl _, Nat.le_refl _⟩

theorem Still.trans (first : s.Still s') (next : s'.Still s'') : s.Still s'' where
  sound := next.sound
  launched := next.launched.trans first.launched
  exits := next.exits.trans first.exits
  now := Nat.le_trans first.now next.now

/-- What is heard does not matter. -/
theorem Sound.hear (sound : s.Sound) (attached : s.current = some p) (heard : List Event) :
    s.Still { s with current := some { p with heard } } where
  sound := ⟨fun q mem => by obtain rfl := Option.some.inj mem; exact sound.attached p attached, sound.retired⟩
  launched := rfl
  exits := by
    have same : ({ p with heard } : Process σ).ended = p.ended := rfl
    rw [exits, exits, alive, alive, attached]
    cases ends : p.ended <;> simp [same, ends, Process.exit]
  now := Nat.le_refl _

theorem Sound.drain (sound : s.Sound) : s.Still s.drain.1 := by
  rw [Session.drain]
  cases attached : s.current with
  | none => exact sound.still
  | some p => exact sound.hear attached []

/-- `s'` is the session `s` later: nothing was launched, no exit got lost, those that were expected still are, and time
has not gone back. -/
structure Later (s s' : Session σ) : Prop where
  sound : s'.Sound
  launched : s'.launched = s.launched
  exits : (s'.exits.map Prod.fst).Perm (s.exits.map Prod.fst)
  expected : ∀ id, (id, true) ∈ s.exits → (id, true) ∈ s'.exits
  now : s.now ≤ s'.now

theorem Still.later (still : s.Still s') : s.Later s' where
  sound := still.sound
  launched := still.launched
  exits := still.exits.map _
  expected _ mem := still.exits.mem_iff.mpr mem
  now := still.now

theorem Later.trans (first : s.Later s') (next : s'.Later s'') : s.Later s'' where
  sound := next.sound
  launched := next.launched.trans first.launched
  exits := next.exits.trans first.exits
  expected id mem := next.expected id (first.expected id mem)
  now := Nat.le_trans first.now next.now

variable [Program σ]

/-! ### Time -/

/-- While time passes, exits come and are noticed, each as what it was to be. -/
theorem exits_passWith (sound : s.Sound) (later : Option.Rel Process.Later s.current current)
    (moment : Nat) : (s.passWith current moment).exits.Perm s.exits := by
  let ran := s.retired.map (·.run moment Process.ended)
  let left := if s.running then current.filter (·.ended) else none
  have ended : ∀ q ∈ left.toList ++ ran.filter (·.ended), ∃ e, q.ending = some e ∧ e.expected = q.stopping := by
    rintro q mem
    rcases List.mem_append.mp mem with mem | mem
    · exact ended_attached later q mem
    · obtain ⟨mem, now⟩ := List.mem_filter.mp mem
      obtain ⟨p, before, rfl⟩ := List.mem_map.mp mem
      exact (Process.later_run _ _ p).ending_of_ended (sound.retired p before).2 now
  have retired : (ran.filter (·.ended) ++ ran.filter fun p => !p.ended).map Process.exit |>.Perm
      (s.retired.map Process.exit) := by
    refine ((List.filter_append_perm _ ran).map _).trans (.of_eq ?_)
    simp only [ran, List.map_map]
    exact List.map_congr_left fun p _ => (Process.later_run _ _ p).exit
  -- The notices stand in the order of the exits, which does not matter here.
  have noticed := ((List.mergeSort_perm (left.toList ++ ran.filter (·.ended)) fun p q =>
    (p.ending.map (·.moment)).getD 0 ≤ (q.ending.map (·.moment)).getD 0).filterMap Process.notice?).map ExitNotice.exit
  rw [Process.exits_notices ended] at noticed
  refine List.perm_iff_count.mpr fun exit => ?_
  have attached := congrArg (List.count exit) (exits_attached later)
  have retired := retired.count_eq exit
  have noticed := noticed.count_eq exit
  simp only [List.map_append, List.count_append, left, ran] at attached retired noticed
  simp only [exits, alive, passWith, List.map_append, List.count_append] at attached ⊢
  omega

theorem Sound.passWith (sound : s.Sound) (later : Option.Rel Process.Later s.current current)
    (moment : Nat) : (s.passWith current moment).Sound where
  attached q mem := by
    have attached := sound.attached
    generalize s.current = before at later attached
    cases later with
    | none => cases mem
    | some later =>
      obtain rfl := Option.some.inj mem
      rw [later.stopping]
      exact attached _ rfl
  retired q mem := by
    obtain ⟨mem, running⟩ := List.mem_filter.mp mem
    obtain ⟨p, before, rfl⟩ := List.mem_map.mp mem
    exact ⟨(Process.later_run _ _ p).stopping.trans (sound.retired p before).1, by simpa using running⟩

theorem Sound.pass (sound : s.Sound) (later : Option.Rel Process.Later s.current current)
    (moment : Nat) : s.Still (s.passWith current moment) where
  sound := sound.passWith later moment
  launched := rfl
  exits := exits_passWith sound later moment
  now := Nat.le_max_left _ _

theorem Sound.passTo (sound : s.Sound) (moment : Nat) : s.Still (s.passTo moment) := by
  refine sound.pass ?_ moment
  cases s.current with
  | none => exact .none
  | some p => exact .some (Process.later_run _ _ p)

theorem Sound.awaitNotice (sound : s.Sound) : s.Still s.awaitNotice := by
  rw [Session.awaitNotice]
  split
  · exact sound.passTo _
  · exact sound.still

/-! ### What is asked of a session -/

theorem Sound.send (sound : s.Sound) (text : String) : s.Still (s.send text).1 := by
  rw [Session.send]
  cases attached : s.current with
  | none => exact sound.still
  | some p =>
    cases ends : p.ended with
    | true => simpa [ends] using sound.still
    | false =>
      simp only [ends, Bool.false_eq_true, ↓reduceIte]
      exact sound.pass (by rw [attached]; exact .some (Process.later_write _ _ p)) _

theorem Sound.read (sound : s.Sound) (wanted : Option Nat) : s.Still (s.read wanted).1 := by
  rw [Session.read]
  cases attached : s.current with
  | none => exact sound.still
  | some p => exact sound.pass (by rw [attached]; exact .some (Process.later_read _ _ p {})) _

/-- A process that is left while it runs was asked to stop, and its exit is expected. -/
theorem Sound.leave (sound : s.Sound) (kill : Nat) :
    s.Later (s.leave kill) ∧ ∀ p ∈ s.alive, (p.session, true) ∈ (s.leave kill).exits := by
  cases attached : s.current with
  | none =>
    have same : s.leave kill = s := by simp [Session.leave, attached]
    rw [same]
    exact ⟨sound.still.later, by simp [alive, attached]⟩
  | some p =>
    cases ends : p.ended with
    | true =>
      have idle : s.alive = [] := by simp [alive, attached, ends]
      have gone : s.leave kill = { s with current := none } := by simp [Session.leave, attached, ends]
      rw [gone]
      refine ⟨Still.later ⟨⟨by simp, sound.retired⟩, rfl, ?_, Nat.le_refl _⟩, by simp [idle]⟩
      rw [exits_idle idle, exits_idle rfl]
    | false =>
      have left : s.leave kill = { s with current := none, retired := s.retired ++ [p.stop kill] } := by
        simp [Session.leave, attached, ends]
      have before : s.exits = (p.session, false) :: (s.retired.map Process.exit ++ s.notices.map ExitNotice.exit) := by
        rw [exits_running attached ends, Process.exit, sound.attached p attached]
      have after : (s.leave kill).exits =
          s.retired.map Process.exit ++ (p.session, true) :: s.notices.map ExitNotice.exit := by
        rw [left, exits_idle rfl, List.map_append, List.append_assoc]
        rfl
      refine ⟨⟨?_, by rw [left], ?_, ?_, Nat.le_of_eq (by rw [left])⟩, ?_⟩
      · rw [left]
        refine ⟨by simp, fun q mem => ?_⟩
        rcases List.mem_append.mp mem with mem | mem
        · exact sound.retired q mem
        · obtain rfl := List.mem_singleton.mp mem
          exact ⟨rfl, ends⟩
      · rw [before, after, List.map_append, List.map_cons, List.map_cons, List.map_append]
        exact List.perm_middle
      · intro id mem
        rw [before] at mem
        rw [after]
        exact List.perm_middle.mem_iff.mpr (List.mem_cons_of_mem _ ((List.mem_cons.mp mem).resolve_left (by simp)))
      · simp [alive, attached, ends, after]

theorem Sound.stop (sound : s.Sound) : s.Later s.stop := (sound.leave _).1

theorem Sound.drop (sound : s.Sound) : s.Later s.drop := (sound.leave _).1

theorem Sound.halt (sound : s.Sound) (limit : Nat) : s.Later (s.halt limit) := by
  rw [Session.halt]
  split
  · exact sound.stop
  · have left := (sound.leave (s.now + ticks limit)).1
    exact left.trans (left.sound.passTo _).later

theorem Sound.awaitPrompt (sound : s.Sound) (attached : s.current = some p) :
    s.Later (s.awaitPrompt p).1 := by
  simp only [Session.awaitPrompt]
  generalize ran : p.run (s.now + ticks s.settings.startupTimeout) (fun p => (Startup.of "" "" p.heard).settled) = q
  have later : Option.Rel Process.Later s.current (some q) := by
    rw [attached, ← ran]
    exact .some (Process.later_run _ _ p)
  have passed := sound.pass later (min q.clock (s.now + ticks s.settings.startupTimeout))
  split
  · exact (passed.trans (passed.sound.hear rfl _)).later
  · exact passed.later.trans (passed.sound.leave _).1
  · exact passed.later.trans (passed.sound.leave _).1

end Session
end Frontier
