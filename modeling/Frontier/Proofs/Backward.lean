import Frontier.Proofs.Forward

/-!
# Backward motion

One undo command takes the engine and the process back together. If it is refused, or cannot be had, the process is
started anew; since every statement up to the target has been accepted once, that cannot fail.
-/

namespace Frontier.Engine
open Text Ledger

/-- The engine after an undo that left `kept` statements. -/
def rewound (e : Engine) (kept target : Nat) : Engine :=
  { e with undo := e.undo.undone kept kept, proved := kept, offset := target }

section
variable {e : Engine} {v : View} {k target : Nat} (ready : Ready e v) (log : e.undo.Counts k) (proved : e.proved = k)
include ready log proved

/-- What comes of an undo is what comes of its command. -/
theorem tryUndo_leads {post : Bool → Engine → View → Prop} (lt : e.outline.countUpTo target < k)
    (answers : (submit (Rules.standard.undo (e.outline.countUpTo target)) 1).Leads contract
      (fun r e' v' => match r.error with
        | some _ => post false e' v'
        | none => post true { e' with
            undo := e'.undo.undone (e.outline.countUpTo target)
              ((r.last?.map (·.id)).getD (e.outline.countUpTo target))
            proved := e.outline.countUpTo target
            offset := target } v')
      (fun _ _ _ => False) e v) :
    (tryUndo target).Leads contract post (fun _ _ _ => False) e v := by
  simp only [tryUndo, Act.leads_bind, Act.leads_get, log.valid, ready.gate, Bool.not_true, Bool.false_eq_true,
    ↓reduceIte, Act.leads_ask]
  refine asks_running ?_
  simp only [ready.runs, Bool.not_true, Bool.false_eq_true, ↓reduceIte, log.size, proved, ne_eq, not_true_eq_false,
    log.undoTarget? lt, Act.leads_bind, Act.leads_attempt, ready.rules]
  refine answers.mono ?_ (fun _ _ _ absurd => absurd.elim)
  intro r e' v' holds
  cases error : r.error with
  | some found => simpa [error] using holds
  | none => simpa [error] using holds

/-- An undo that is granted. -/
theorem tryUndo_granted (lt : e.outline.countUpTo target < k) (id : v.id = k) (small : k ≤ maxWord)
    (granted : v.rejectsUndo = false) :
    (tryUndo target).Leads contract
      (fun done e' v' => done = true ∧ ∃ r : Response, r.segments.isEmpty = false ∧
        e' = (e.answered r).rewound (e.outline.countUpTo target) target ∧
          v' = v.taken (Rules.standard.undo (e.outline.countUpTo target)) (e.outline.countUpTo target)
            (v.accepted.take (e.outline.countUpTo target)))
      (fun _ _ _ => False) e v := by
  have few : e.outline.countUpTo target ≤ maxWord := by omega
  refine tryUndo_leads ready log proved lt ?_
  refine (submit_undo ready (Echo.undoTarget?_undo few) granted (by omega) few).mono ?_ (fun _ _ _ absurd => absurd)
  rintro r _ _ ⟨error, last, rfl, rfl⟩
  simp only [error, last, Option.map_some, Option.getD_some]
  exact ⟨trivial, r, segments_of_last? last, rfl, trivial⟩

/-- An undo that is refused. -/
theorem tryUndo_refused (lt : e.outline.countUpTo target < k) (id : v.id = k) (small : k ≤ maxWord)
    (refused : v.rejectsUndo = true) :
    (tryUndo target).Leads contract
      (fun done e' v' => done = false ∧ ∃ r : Response, r.segments.isEmpty = false ∧ e' = e.answered r ∧
        v' = v.taken (Rules.standard.undo (e.outline.countUpTo target)) v.id v.accepted)
      (fun _ _ _ => False) e v := by
  have few : e.outline.countUpTo target ≤ maxWord := by omega
  refine tryUndo_leads ready log proved lt ?_
  refine (submit_refused ready (Echo.undoTarget?_undo few) (.inl refused) (by omega)).mono ?_
    (fun _ _ _ absurd => absurd)
  rintro r _ _ ⟨error, last, rfl, rfl⟩
  obtain ⟨found, error⟩ := Option.isSome_iff_exists.mp error
  simp only [error]
  exact ⟨trivial, r, segments_of_last? last, rfl, trivial⟩

/-- There is nothing to undo if all statements executed are kept. -/
theorem tryUndo_beyond (ge : k ≤ e.outline.countUpTo target) :
    (tryUndo target).Leads contract (fun done e' v' => done = false ∧ e' = e ∧ v' = v) (fun _ _ _ => False) e v := by
  have none : e.undo.undoTarget? k (e.outline.countUpTo target : Int) = none := by
    have positive : ¬ (e.outline.countUpTo target : Int) < 0 := by omega
    simp only [UndoLog.undoTarget?, log.valid, positive, Int.toNat_natCast, Nat.not_lt.mpr ge, Bool.not_true,
      Bool.false_eq_true, ↓reduceIte]
  simp only [tryUndo, Act.leads_bind, Act.leads_get, log.valid, ready.gate, Bool.not_true, Bool.false_eq_true,
    ↓reduceIte, Act.leads_ask]
  refine asks_running ?_
  simp only [ready.runs, Bool.not_true, Bool.false_eq_true, ↓reduceIte, log.size, proved, ne_eq, not_true_eq_false,
    none, Act.leads_pure]
  exact ⟨trivial, trivial, trivial⟩

end

variable {doc : String} {e : Engine} {v : View} {j k : Nat}

/-- Nothing is undone without a process. -/
theorem tryUndo_away (target : Nat) (dead : v.running = false) :
    (tryUndo target).Leads contract (fun done e' v' => done = false ∧ e' = e ∧ v' = v) (fun _ _ _ => False) e v := by
  simp only [tryUndo, Act.leads_bind, Act.leads_get]
  by_cases valid : e.undo.valid = true
  · by_cases gate : e.inFlight = true
    · simp [valid, gate]
    · simp only [valid, gate, Bool.not_true, Bool.false_eq_true, ↓reduceIte, Act.leads_bind, Act.leads_ask]
      refine asks_running ?_
      simp [dead]
  · simp [valid]

/-- The engine holds the first `k` statements for verified; a process that runs has accepted just these. -/
def Synced (doc : String) (k : Nat) (e : Engine) (v : View) : Prop := At doc k e v ∨ Away doc k e v

namespace Synced

theorem toReads (synced : Synced doc k e v) : Reads doc e := synced.elim (·.toReads) (·.toReads)

theorem bound (synced : Synced doc k e v) : k ≤ (Statement.all doc).length := synced.elim (·.bound) (·.bound)

theorem sound (synced : Synced doc k e v) : SoundTo doc k := synced.elim (·.sound) (·.sound)

theorem offset (synced : Synced doc k e v) : e.offset = endOf doc k := synced.elim (·.offset) (·.offset)

theorem proved (synced : Synced doc k e v) : e.proved = k := synced.elim (·.proved) (·.proved)

theorem free (synced : Synced doc k e v) : v.scripts = [] := synced.elim (·.free) (·.free)

end Synced

theorem StoppedBefore.synced {n : Nat} {fault : Fault} (stopped : StoppedBefore doc n fault e v) :
    ∃ m < n, Synced doc m e v ∧ ∃ s, (Statement.all doc)[m]? = some s ∧ Echo.sound s.text = false := by
  obtain ⟨m, lt, s, found, how⟩ := stopped
  cases how with
  | crashes dies fallen id => exact ⟨m, lt, .inr fallen.toAway, s, found, by simp [Echo.sound, dies]⟩
  | fails lives bad holds => exact ⟨m, lt, .inl holds, s, found, by simp [Echo.sound, bad]⟩

theorem ensureSession_leads (clear : Clear doc) (synced : Synced doc k e v) :
    ensureSession.Leads contract (fun _ => At doc k) (fun _ _ _ => False) e v := by
  simp only [ensureSession, Engine.ready, Act.leads_bind, Act.leads_ask, Act.leads_get, Act.leads_pure]
  refine asks_running ?_
  rcases synced with at' | away
  · simpa [at'.runs, at'.gate] using at'
  · simp only [away.dead, Bool.false_and, Bool.not_false, ↓reduceIte, Act.leads_bind, Act.leads_get, away.offset]
    by_cases none : k = 0
    · subst none
      rw [if_pos (show endOf doc 0 = 0 from rfl)]
      exact (startSession_leads away.toReads away.free).mono (fun _ _ _ started => started.1)
        (fun _ _ _ absurd => absurd)
    · have some : ¬ endOf doc k = 0 := by
        have := (endOf_lt_iff (Nat.zero_le _) away.bound).mpr (Nat.pos_of_ne_zero none)
        omega
      simp only [some, ↓reduceIte, Act.leads_bind, Act.leads_get]
      refine (recoverTo_sound clear away.toReads away.free away.bound away.sound).mono ?_ (fun _ _ _ absurd => absurd)
      rintro _ e₁ v₁ ⟨at₁, -⟩
      simpa [at₁.offset] using at₁

/-- A motion backward first tries to undo, and makes up for it if that fails. -/
theorem backwardTo_behind (synced : Synced doc k e v) (lt : j < k) {post : Unit → Engine → View → Prop}
    {failed : Fault → Engine → View → Prop}
    (tries : (tryUndo (endOf doc j)).Leads contract
      (fun done e' v' => if done then post () e' v' else (recoverTo (endOf doc j)).Leads contract post failed e' v')
      (fun _ _ _ => False) e v) :
    (backwardTo (endOf doc j)).Leads contract post failed e v := by
  have back : endOf doc j < e.offset := by
    rw [synced.offset]
    exact (endOf_lt_iff (Nat.le_trans (Nat.le_of_lt lt) synced.bound) synced.bound).mpr lt
  simp only [backwardTo, Act.leads_bind, Act.leads_get, back, ↓reduceIte]
  refine tries.mono ?_ (fun _ _ _ absurd => absurd.elim)
  intro done e' v' next
  cases done with
  | true => exact next
  | false => exact next

/-- The prover grants the undo: one command, and the process goes on. -/
theorem backwardTo_granted (clear : Clear doc) (at' : At doc k e v) (lt : j < k) (granted : v.rejectsUndo = false) :
    (backwardTo (endOf doc j)).Leads contract
      (fun _ e' v' => At doc j e' v' ∧ v.Traffic [Rules.standard.undo j] 0 v') (fun _ _ _ => False) e v := by
  have bound : j ≤ (Statement.all doc).length := Nat.le_trans (Nat.le_of_lt lt) at'.bound
  have count := at'.toReads.countUpTo bound
  have small : k ≤ maxWord := Nat.le_trans at'.bound clear.few
  refine backwardTo_behind (.inl at') lt ?_
  refine (tryUndo_granted at'.toReady at'.log at'.proved (by omega) at'.id small granted).mono ?_
    (fun _ _ _ absurd => absurd)
  rintro _ _ _ ⟨rfl, r, some, rfl, rfl⟩
  simp only [↓reduceIte, count]
  have ready := at'.toReady.answered some (Rules.standard.undo j) j (v.accepted.take j)
  exact ⟨{ at' with
    toReady := ready.moved _ _ _
    le := Nat.le_refl _
    bound
    sound := soundTo_le (Nat.le_of_lt lt) at'.sound
    offset := rfl
    proved := rfl
    log := at'.log.undone (Nat.le_of_lt lt)
    id := rfl
    accepted := by
      show v.accepted.take j = _
      rw [at'.accepted, take_textsTo (Nat.le_of_lt lt)] }, v.taken_traffic _ _ _⟩

/-- The prover refuses the undo: a process is started, and verifies the statements that are left. -/
theorem backwardTo_refused (clear : Clear doc) (at' : At doc k e v) (lt : j < k) (refused : v.rejectsUndo = true) :
    (backwardTo (endOf doc j)).Leads contract
      (fun _ e' v' => At doc j e' v' ∧
        v.Traffic (Rules.standard.undo j :: replayed ((Statement.all doc).take j)) 1 v') (fun _ _ _ => False) e v := by
  have bound : j ≤ (Statement.all doc).length := Nat.le_trans (Nat.le_of_lt lt) at'.bound
  have count := at'.toReads.countUpTo bound
  have small : k ≤ maxWord := Nat.le_trans at'.bound clear.few
  refine backwardTo_behind (.inl at') lt ?_
  refine (tryUndo_refused at'.toReady at'.log at'.proved (by omega) at'.id small refused).mono ?_
    (fun _ _ _ absurd => absurd)
  rintro _ _ _ ⟨rfl, r, some, rfl, rfl⟩
  simp only [Bool.false_eq_true, ↓reduceIte, count]
  have ready := at'.toReady.answered some (Rules.standard.undo j) v.id v.accepted
  have reads : Reads doc (e.answered r) := ⟨at'.settings, at'.rules, at'.document, at'.outline⟩
  refine (recoverTo_sound clear reads ready.free bound (soundTo_le (Nat.le_of_lt lt) at'.sound)).mono ?_
    (fun _ _ _ absurd => absurd)
  rintro _ e' v' ⟨at'', traffic⟩
  exact ⟨at'', (v.taken_traffic _ _ _).trans traffic⟩

/-- Nothing is undone without a process. -/
theorem backwardTo_away (clear : Clear doc) (away : Away doc k e v) (lt : j < k) :
    (backwardTo (endOf doc j)).Leads contract (fun _ => At doc j) (fun _ _ _ => False) e v := by
  refine backwardTo_behind (.inr away) lt ?_
  refine (tryUndo_away _ away.dead).mono ?_ (fun _ _ _ absurd => absurd)
  rintro _ _ _ ⟨rfl, rfl, rfl⟩
  simp only [Bool.false_eq_true, ↓reduceIte]
  exact (recoverTo_sound clear away.toReads away.free (Nat.le_trans (Nat.le_of_lt lt) away.bound)
    (soundTo_le (Nat.le_of_lt lt) away.sound)).mono (fun _ _ _ recovered => recovered.1) (fun _ _ _ absurd => absurd)

/-- The verified region is moved back, whatever the process is like. -/
theorem backwardTo_leads (clear : Clear doc) (synced : Synced doc k e v) (lt : j < k) :
    (backwardTo (endOf doc j)).Leads contract (fun _ => At doc j) (fun _ _ _ => False) e v := by
  rcases synced with at' | away
  · by_cases refused : v.rejectsUndo = true
    · exact (backwardTo_refused clear at' lt refused).mono (fun _ _ _ back => back.1) (fun _ _ _ absurd => absurd)
    · exact (backwardTo_granted clear at' lt (by simpa using refused)).mono (fun _ _ _ back => back.1)
        (fun _ _ _ absurd => absurd)
  · exact backwardTo_away clear away lt

end Frontier.Engine
