import Frontier.Proofs.Backward

/-!
# Operations keep engine and process in step

What each intent makes of an engine and a process that are in step. They are in step again when its operation ends,
whether it succeeds or not.
-/

namespace Frontier.Engine
open Text Ledger

variable {doc : String} {e : Engine} {v : View} {k : Nat}

/-- Neither the outline nor what is verified changes when an operation begins. -/
theorem Reads.begun (reads : Reads doc e) (i : Intent) : (e.begun i).outline = e.outline := by
  simp [Engine.begun, Outline.update, reads.outline, outlineOf, reads.document]

theorem Holds.begun (at' : At doc k e v) (i : Intent) : At doc k (e.begun i) v :=
  { at' with outline := (at'.toReads.begun i).trans at'.outline }

theorem Away.begun (away : Away doc k e v) (i : Intent) : Away doc k (e.begun i) v :=
  { away with outline := (away.toReads.begun i).trans away.outline }

theorem Synced.begun (synced : Synced doc k e v) (i : Intent) : Synced doc k (e.begun i) v :=
  synced.elim (fun at' => .inl (at'.begun i)) (fun away => .inr (away.begun i))

/-- What is going on, and the transactions, do not matter. -/
theorem Holds.noted (at' : At doc k e v) (activity : Activity) (transactions : TransactionLog) :
    At doc k { e with activity, transactions } v := { at' with }

theorem Away.noted (away : Away doc k e v) (activity : Activity) (transactions : TransactionLog) :
    Away doc k { e with activity, transactions } v := { away with }

theorem Synced.noted (synced : Synced doc k e v) (activity : Activity) (transactions : TransactionLog) :
    Synced doc k { e with activity, transactions } v :=
  synced.elim (fun at' => .inl (at'.noted _ _)) (fun away => .inr (away.noted _ _))

theorem stepForward_leads (clear : Clear doc) (synced : Synced doc k e v) {s : Statement}
    (found : (Statement.all doc)[k]? = some s) :
    stepForward.Leads contract (fun _ => At doc (k + 1)) (Stopped doc k s) e v := by
  have next : ∀ {e : Engine} {v : View}, Synced doc k e v → e.outline.next? e.offset = some s := by
    intro e v synced
    rw [synced.offset, synced.toReads.next? synced.bound, found]
  simp only [stepForward, Act.leads_bind, Act.leads_get, next synced, Option.isSome_some, ↓reduceIte]
  refine (ensureSession_leads clear synced).mono ?_ (fun _ _ _ absurd => absurd.elim)
  intro _ e₁ v₁ at₁
  simp only [next (.inl at₁)]
  exact executeSingle_leads clear at₁ found

theorem stepForward_end (synced : Synced doc k e v) (found : (Statement.all doc)[k]? = none) :
    stepForward.Leads contract (fun _ e' v' => e' = e ∧ v' = v) (fun _ _ _ => False) e v := by
  have none : e.outline.next? e.offset = none := by
    rw [synced.offset, synced.toReads.next? synced.bound, found]
  simp [stepForward, none]

theorem stepBackward_leads (clear : Clear doc) (synced : Synced doc k e v) :
    stepBackward.Leads contract (fun _ => Synced doc (k - 1)) (fun _ _ _ => False) e v := by
  simp only [stepBackward, Act.leads_bind, Act.leads_get]
  by_cases none : k = 0
  · subst none
    have start : e.offset = 0 := synced.offset
    simpa [start] using synced
  · have some : e.offset ≠ 0 := by
      have := (endOf_lt_iff (Nat.zero_le _) synced.bound).mpr (Nat.pos_of_ne_zero none)
      rw [synced.offset]
      omega
    rw [if_pos some, synced.offset, synced.toReads.previousEnd synced.bound]
    exact (backwardTo_leads clear synced (by omega)).mono (fun _ _ _ at' => .inl at') (fun _ _ _ absurd => absurd)

/-- Forward motion to a cursor that lies ahead. -/
theorem goToCursor_ahead (clear : Clear doc) (synced : Synced doc k e v) {cursor n : Nat} (lt : k < n)
    (bound : n ≤ (Statement.all doc).length) (target : e.outline.boundaryAt cursor = endOf doc n) :
    (goToCursor cursor).Leads contract (fun _ => At doc n) (StoppedBefore doc n) e v := by
  have ahead : e.offset < endOf doc n := by
    rw [synced.offset]
    exact (endOf_lt_iff synced.bound bound).mpr lt
  simp only [goToCursor, Act.leads_bind, Act.leads_get, target, Nat.not_lt.mpr (Nat.le_of_lt ahead), ahead, ↓reduceIte]
  refine (ensureSession_leads clear synced).mono ?_ (fun _ _ _ absurd => absurd.elim)
  intro _ e₁ v₁ at₁
  obtain ⟨s, found, rest⟩ := drop_take_cons lt bound
  have some : (((Statement.all doc).take n).drop k).isEmpty = false := by rw [rest]; rfl
  simp only [at₁.offset, at₁.toReads.within (Nat.le_of_lt lt) bound, some, Bool.not_false, ↓reduceIte]
  exact forwardThrough_leads clear lt bound at₁

/-- Motion to a cursor that does not lie ahead. -/
theorem goToCursor_behind (clear : Clear doc) (synced : Synced doc k e v) {cursor n : Nat} (le : n ≤ k)
    (target : e.outline.boundaryAt cursor = endOf doc n) :
    (goToCursor cursor).Leads contract (fun _ => Synced doc n) (fun _ _ _ => False) e v := by
  have bound : n ≤ (Statement.all doc).length := Nat.le_trans le synced.bound
  simp only [goToCursor, Act.leads_bind, Act.leads_get, target, synced.offset]
  by_cases same : n = k
  · subst same
    simpa using synced
  · have lt : n < k := by omega
    have behind := (endOf_lt_iff bound synced.bound).mpr lt
    simp only [behind, ↓reduceIte, Act.leads_bind, Act.leads_modify]
    exact (backwardTo_leads clear (synced.noted .retracting e.transactions) lt).mono (fun _ _ _ at' => .inl at')
      (fun _ _ _ absurd => absurd)

theorem retract_leads (clear : Clear doc) (synced : Synced doc k e v) (edit : Nat) :
    (retract edit).Leads contract (fun _ e' v' => ∃ j, Synced doc j e' v') (fun _ _ _ => False) e v := by
  simp only [retract, Act.leads_bind, Act.leads_get]
  by_cases inside : edit < e.offset
  · obtain ⟨bound, reached, -⟩ := Outline.countUpTo_spec (inOrder doc e.version) edit
    rw [size_outlineOf] at bound
    have boundary : e.outline.boundaryUpTo edit = endOf doc ((outlineOf doc e.version).countUpTo edit) := by
      rw [synced.toReads.outline]
      rfl
    have lt : (outlineOf doc e.version).countUpTo edit < k := by
      rw [synced.offset] at inside
      exact (endOf_lt_iff bound synced.bound).mp (Nat.lt_of_le_of_lt reached inside)
    simp only [inside, ↓reduceIte, boundary]
    exact (backwardTo_leads clear synced lt).mono (fun _ _ _ at' => ⟨_, .inl at'⟩) (fun _ _ _ absurd => absurd)
  · simp only [inside, ↓reduceIte, Act.leads_pure]
    exact ⟨k, synced⟩

theorem stopped_dead (v : View) : v.stopped.running = false := by
  unfold View.stopped
  split
  · rfl
  · next stopped => simpa using stopped

theorem reset_leads (reads : Reads doc e) (free : v.scripts = []) :
    reset.Leads contract (fun _ => Away doc 0) (fun _ _ _ => False) e v := by
  simp only [reset, Act.leads_bind, Act.leads_modify]
  refine haltSession_leads ?_
  exact { settings := reads.settings, rules := reads.rules, document := reads.document,
          outline := by
            show ((e.outline.clear).update e.document e.version).1 = outlineOf doc e.version
            rw [reads.document]
            rfl
          bound := Nat.zero_le _, sound := fun t mem => by simp [textsTo] at mem, offset := rfl, proved := rfl,
          dead := stopped_dead v, free := stopped_free free }

/-- Every intent leaves engine and process in step. -/
theorem act_leads (clear : Clear doc) (synced : Synced doc k e v) (i : Intent) :
    (act i).Leads contract (fun _ e' v' => ∃ j, Synced doc j e' v') (fun _ e' v' => ∃ j, Synced doc j e' v') e v := by
  cases i with
  | stepForward =>
    cases found : (Statement.all doc)[k]? with
    | none =>
      refine (stepForward_end synced found).mono ?_ (fun _ _ _ absurd => absurd.elim)
      rintro _ _ _ ⟨rfl, rfl⟩
      exact ⟨k, synced⟩
    | some s =>
      refine (stepForward_leads clear synced found).mono (fun _ _ _ at' => ⟨k + 1, .inl at'⟩) ?_
      intro fault e' v' stopped
      cases stopped with
      | crashes dies fallen id => exact ⟨k, .inr fallen.toAway⟩
      | fails lives bad holds => exact ⟨k, .inl holds⟩
  | stepBackward =>
    exact (stepBackward_leads clear synced).mono (fun _ _ _ synced' => ⟨_, synced'⟩) (fun _ _ _ absurd => absurd.elim)
  | goToCursor cursor =>
    obtain ⟨n, bound, target⟩ := synced.toReads.boundaryAt cursor
    rcases Nat.lt_or_ge k n with lt | le
    · refine (goToCursor_ahead clear synced lt bound target).mono (fun _ _ _ at' => ⟨n, .inl at'⟩) ?_
      intro fault e' v' stopped
      obtain ⟨m, -, synced', -⟩ := stopped.synced
      exact ⟨m, synced'⟩
    · exact (goToCursor_behind clear synced le target).mono (fun _ _ _ synced' => ⟨n, synced'⟩)
        (fun _ _ _ absurd => absurd.elim)
  | recover =>
    simp only [act, Act.leads_bind, Act.leads_get, synced.offset]
    exact (recoverTo_sound clear synced.toReads synced.free synced.bound synced.sound).mono
      (fun _ _ _ recovered => ⟨k, .inl recovered.1⟩) (fun _ _ _ absurd => absurd.elim)
  | retract edit =>
    exact (retract_leads clear synced edit).mono (fun _ _ _ synced' => synced') (fun _ _ _ absurd => absurd.elim)
  | reset =>
    exact (reset_leads synced.toReads synced.free).mono (fun _ _ _ away => ⟨0, .inr away⟩)
      (fun _ _ _ absurd => absurd.elim)

/-- Every operation leaves engine and process in step. -/
theorem perform_leads (clear : Clear doc) (synced : Synced doc k e v) (i : Intent) :
    (e.perform i).Leads contract (fun p v' => ∃ j, Synced doc j p.2 v') v := by
  apply performing_leads (World.contract_quiet view) i fun _ e' v' => ∃ j, Synced doc j e' v'
  refine (act_leads clear (synced.begun i) i).mono ?_ ?_
  · rintro _ e' v' ⟨j, synced'⟩
    exact ⟨j, synced'.noted _ _⟩
  · rintro _ e' v' ⟨j, synced'⟩
    exact ⟨j, synced'.noted _ _⟩

theorem shutdown_leads (synced : Synced doc k e v) : e.shutdown.Leads contract (fun e' v' => Away doc k e' v') v := by
  simp only [shutdown, Dialogue.leads_bind]
  refine asks_halt _ ?_
  have reads := synced.toReads
  exact { settings := reads.settings, rules := reads.rules, document := reads.document, outline := reads.outline,
          bound := synced.bound, sound := synced.sound, offset := synced.offset, proved := synced.proved,
          dead := stopped_dead v, free := stopped_free synced.free }

end Frontier.Engine
