import Frontier.Proofs.Position

/-!
# Forward motion

What each motion forward makes of a position is said once. A motion that fails stops in front of the first statement
that is rejected or deadly, whether it was sent alone or in a batch that had to be taken back.
-/

namespace Frontier.Engine
open Text Ledger

variable {doc : String} {e : Engine} {v : View} {k m : Nat}

/-! ## One statement -/

/-- A statement that is accepted. -/
theorem executeSingle_sound (clear : Clear doc) (at' : At doc k e v) {s : Statement}
    (found : (Statement.all doc)[k]? = some s) (sound : Echo.sound s.text = true) :
    (executeSingle s).Leads contract (fun _ e' v' => At doc (k + 1) e' v' ∧ v.Traffic [s.text] 0 v')
      (fun _ _ _ => False) e v := by
  have mem := List.mem_of_getElem? found
  obtain ⟨lt, -⟩ := List.getElem?_eq_some_iff.mp found
  have few := clear.few
  have small : v.id + [s.text].length ≤ maxWord := by
    rw [at'.id, List.length_singleton]
    omega
  have announced : At doc k { e with undo := e.undo.announce e.proved } v := { at' with log := at'.log.announce _ }
  simp only [executeSingle, Act.leads_bind, Act.leads_get, Act.leads_modify]
  refine (submit_sound announced.toReady (by simp) (clear.noUndo s mem) (reads_text mem) (by simpa using sound)
    (by simpa using clear.plain s mem) small).mono ?_ (fun _ _ _ absurd => absurd)
  rintro r _ _ ⟨rfl, rfl, rfl⟩
  have last : (⟨Echo.segments v.id [s.text], none⟩ : Response).last? = some (Echo.mark (v.id + 1)) := rfl
  simp only [last, Act.leads_modify]
  have ready := announced.toReady.answered (segments_of_last? last) s.text (v.id + 1) (v.accepted ++ [s.text])
  refine ⟨{ announced with
    toReady := ready.moved _ _ _
    le := Nat.le_refl _
    bound := lt
    sound := soundTo_succ found at'.sound sound
    offset := (endOf_succ found).symm
    proved := congrArg (· + 1) at'.proved
    log := ?_
    id := congrArg (· + 1) at'.id
    accepted := ?_ }, v.taken_traffic _ _ _⟩
  · show ((e.undo.announce e.proved).acknowledge e.proved (v.id + 1)).1.Counts (k + 1)
    rw [at'.proved, at'.id]
    exact at'.log.acknowledge
  · show v.accepted ++ [s.text] = _
    rw [at'.accepted, textsTo_succ found]

/-- A statement that is rejected or deadly. -/
theorem executeSingle_stops (clear : Clear doc) (at' : At doc k e v) {s : Statement}
    (found : (Statement.all doc)[k]? = some s) (stops : Echo.sound s.text = false) :
    (executeSingle s).Leads contract (fun _ _ _ => False) (Stopped doc k s) e v := by
  have mem := List.mem_of_getElem? found
  obtain ⟨lt, -⟩ := List.getElem?_eq_some_iff.mp found
  have few := clear.few
  have small : v.id + ([] : List String).length ≤ maxWord := by
    rw [at'.id, List.length_nil]
    omega
  have announced : At doc k { e with undo := e.undo.announce e.proved } v := { at' with log := at'.log.announce _ }
  simp only [executeSingle, Act.leads_bind, Act.leads_get, Act.leads_modify]
  by_cases dies : Echo.crashes s.text = true
  · refine (submit_crashes announced.toReady [] (by simp) (clear.noUndo s mem) (reads_text mem) (by simp) dies (by simp)
      small).mono (fun _ _ _ absurd => absurd.elim) ?_
    rintro _ _ _ ⟨rfl, rfl, rfl⟩
    exact .crashes dies (announced.fallen rfl at'.free) at'.id
  have lives : Echo.crashes s.text = false := by simpa using dies
  have bad : Echo.fails s.text = true := by simpa [Echo.sound, lives] using stops
  refine (submit_fails announced.toReady [] 1 (clear.noUndo s mem) (reads_text mem) (by simp) lives bad (by simp)
    (clear.plain s mem) small).mono ?_ (fun _ _ _ absurd => absurd.elim)
  rintro r _ _ ⟨error, last, rfl, rfl⟩
  simp only [error]
  refine .fails lives bad { announced with
    toReady := announced.toReady.answered (segments_of_last? last) _ _ _
    id := at'.id
    accepted := ?_ }
  show v.accepted ++ [] = _
  rw [List.append_nil, at'.accepted]

theorem executeSingle_leads (clear : Clear doc) (at' : At doc k e v) {s : Statement}
    (found : (Statement.all doc)[k]? = some s) :
    (executeSingle s).Leads contract (fun _ => At doc (k + 1)) (Stopped doc k s) e v := by
  by_cases sound : Echo.sound s.text = true
  · exact (executeSingle_sound clear at' found sound).mono (fun _ _ _ next => next.1) (fun _ _ _ absurd => absurd.elim)
  · exact (executeSingle_stops clear at' found (by simpa using sound)).mono (fun _ _ _ absurd => absurd.elim)
      (fun _ _ _ stopped => stopped)

theorem drop_take_cons {n : Nat} (lt : k < n) (bound : n ≤ (Statement.all doc).length) :
    ∃ s, (Statement.all doc)[k]? = some s ∧
      ((Statement.all doc).take n).drop k = s :: ((Statement.all doc).take n).drop (k + 1) := by
  have short : k < ((Statement.all doc).take n).length := by
    rw [List.length_take]
    omega
  refine ⟨(Statement.all doc)[k], List.getElem?_eq_getElem (by omega), ?_⟩
  rw [List.drop_eq_getElem_cons short, List.getElem_take]

/-! ## Several statements, one by one -/

/-- Statements sent one by one are verified up to the first that is rejected or deadly. -/
theorem replay_leads (clear : Clear doc) {n : Nat} (bound : n ≤ (Statement.all doc).length) (le : k ≤ n)
    (at' : At doc k e v) : (replay (((Statement.all doc).take n).drop k)).Leads contract (fun _ => At doc n)
      (StoppedBefore doc n) e v := by
  obtain ⟨d, rfl⟩ : ∃ d, n = k + d := ⟨n - k, by omega⟩
  induction d generalizing k e v with
  | zero =>
    rw [List.drop_eq_nil_of_le (by rw [List.length_take]; omega)]
    exact at'
  | succ d ih =>
    obtain ⟨s, found, rest⟩ := drop_take_cons (show k < k + (d + 1) by omega) bound
    have ahead : e.offset < s.stop := by
      rw [at'.offset, ← endOf_succ found]
      exact (endOf_lt_iff at'.bound (by omega)).mpr (Nat.lt_succ_self k)
    rw [rest, replay]
    simp only [Act.leads_bind, Act.leads_get, ahead, ↓reduceIte]
    refine (executeSingle_leads clear at' found).mono ?_ ?_
    · intro _ e' v' next
      have goes := ih (k := k + 1) next (by omega) (by omega)
      rwa [show k + 1 + d = k + (d + 1) by omega] at goes
    · exact fun fault e' v' stopped => ⟨k, by omega, s, found, stopped⟩

/-! ## Several statements at once -/

/-- Texts are all accepted, or there is a first that is not. -/
theorem split_sound (texts : List String) : (∀ t ∈ texts, Echo.sound t = true) ∨
    ∃ before t more, texts = before ++ t :: more ∧ (∀ t ∈ before, Echo.sound t = true) ∧ Echo.sound t = false := by
  induction texts with
  | nil => exact .inl (by simp)
  | cons text rest ih =>
    by_cases first : Echo.sound text = true
    · rcases ih with all | ⟨before, t, more, rfl, sounds, stops⟩
      · exact .inl (List.forall_mem_cons.mpr ⟨first, all⟩)
      · exact .inr ⟨text :: before, t, more, rfl, List.forall_mem_cons.mpr ⟨first, sounds⟩, stops⟩
    · exact .inr ⟨[], text, rest, rfl, by simp, by simpa using first⟩

theorem textsTo_split {n : Nat} (le : k ≤ n) (bound : n ≤ (Statement.all doc).length) {before more : List String}
    {t : String} (split : (((Statement.all doc).take n).drop k).map (·.text) = before ++ t :: more) :
    k + before.length < n ∧ textsTo doc (k + before.length) = textsTo doc k ++ before ∧
      ∃ s, (Statement.all doc)[k + before.length]? = some s ∧ s.text = t := by
  have size := congrArg List.length split
  simp only [List.length_map, List.length_drop, List.length_take, List.length_append, List.length_cons] at size
  have short : k + before.length < n := by omega
  have window : ∀ i, i ≤ n - k → (((Statement.all doc).drop k).take i).map (·.text) = (before ++ t :: more).take i := by
    intro i small
    rw [← split, List.drop_take, ← List.map_take, List.take_take, Nat.min_eq_left small]
  refine ⟨short, ?_, (Statement.all doc)[k + before.length], List.getElem?_eq_getElem (by omega), ?_⟩
  · have front := window before.length (by omega)
    rw [List.take_left] at front
    rw [textsTo, List.take_add, List.map_append, front, textsTo]
  · have found : ((((Statement.all doc).take n).drop k).map (·.text))[before.length]? = some t := by
      rw [split]
      simp
    have inside := List.getElem?_eq_getElem (show k + before.length < (Statement.all doc).length by omega)
    simpa [List.getElem?_take, short, inside] using found

theorem textsTo_window {n : Nat} (le : k ≤ n) :
    textsTo doc n = textsTo doc k ++ (((Statement.all doc).take n).drop k).map (·.text) := by
  rw [textsTo, textsTo, ← List.map_append]
  congr 1
  conv => lhs; rw [← List.take_append_drop k ((Statement.all doc).take n), List.take_take, Nat.min_eq_left le]

theorem getLast?_window {n : Nat} (lt : k < n) (bound : n ≤ (Statement.all doc).length) :
    ((((Statement.all doc).take n).drop k).getLast?.map (·.stop)) = some (endOf doc n) := by
  have found := List.getElem?_eq_getElem (show n - 1 < (Statement.all doc).length by omega)
  have last : (((Statement.all doc).take n).drop k).getLast? = (Statement.all doc)[n - 1]? := by
    rw [List.getLast?_eq_getElem?, List.getElem?_drop, List.length_drop, List.length_take, Nat.min_eq_left bound,
      List.getElem?_take_of_lt (by omega)]
    congr 1
    omega
  have stop := endOf_succ found
  rw [Nat.sub_add_cancel (by omega)] at stop
  rw [last, found, stop]
  rfl

/-- What comes of a batch that was answered. -/
inductive Batched (doc : String) (k n : Nat) : BatchResult → Engine → View → Prop
  | accepted {e : Engine} {v : View} (at' : At doc n e v) : Batched doc k n .accepted e v
  /-- The process is ahead of the engine by the statements before the culprit. -/
  | rejected {e : Engine} {v : View} (m : Nat) (lt : m < n) (holds : Holds doc k m e v) :
    Batched doc k n (.rejected m) e v

theorem mem_window {n : Nat} {s : Statement} (mem : s ∈ ((Statement.all doc).take n).drop k) : s ∈ Statement.all doc :=
  List.mem_of_mem_take (List.mem_of_mem_drop mem)

/-- The statements after the first `k` up to the first `n`, and the command that they make. -/
structure Batch (doc : String) (k n : Nat) (ss : List Statement) : Prop where
  window : ((Statement.all doc).take n).drop k = ss
  size : ss.length = n - k
  reads : (Statement.all (batchText ss)).map (·.text) = ss.map (·.text)
  noUndo : Echo.undoTarget? (batchText ss) = none
  plain : ∀ t ∈ ss.map (·.text), '[' ∉ t.toList

theorem batch_window (clear : Clear doc) {n : Nat} (several : k + 2 ≤ n) (bound : n ≤ (Statement.all doc).length) :
    Batch doc k n (((Statement.all doc).take n).drop k) := by
  have size : (((Statement.all doc).take n).drop k).length = n - k := by
    rw [List.length_drop, List.length_take]
    omega
  have whole : ∀ t ∈ (((Statement.all doc).take n).drop k).map (·.text), Statement.Whole t.toList := by
    intro t mem
    obtain ⟨s, given, rfl⟩ := List.mem_map.mp mem
    exact whole_of_mem_all (mem_window given)
  have plain : ∀ t ∈ (((Statement.all doc).take n).drop k).map (·.text), '[' ∉ t.toList := by
    intro t mem
    obtain ⟨s, given, rfl⟩ := List.mem_map.mp mem
    exact clear.plain s (mem_window given)
  exact ⟨rfl, size, Statement.all_lines whole, undoTarget?_batch whole (by rw [List.length_map]; omega), plain⟩

/-- A batch of statements that are all accepted. -/
theorem executeBatch_sound (clear : Clear doc) {n : Nat} (several : k + 2 ≤ n) (bound : n ≤ (Statement.all doc).length)
    (at' : At doc k e v) {ss : List Statement} (batch : Batch doc k n ss)
    (sounds : ∀ t ∈ ss.map (·.text), Echo.sound t = true) :
    (executeBatch ss).Leads contract
      (fun result e' v' => result = .accepted ∧ At doc n e' v' ∧ v.Traffic [batchText ss] 0 v') (fun _ _ _ => False)
      e v := by
  have few := clear.few
  have size := batch.size
  have some : ss.map (·.text) ≠ [] := by
    rw [← List.length_pos_iff, List.length_map]
    omega
  have sent := submit_sound at'.toReady some batch.noUndo batch.reads sounds batch.plain
    (by rw [at'.id, List.length_map]; omega)
  rw [List.length_map] at sent
  simp only [executeBatch, Act.leads_bind]
  refine sent.mono ?_ (fun _ _ _ absurd => absurd)
  rintro r _ _ ⟨rfl, rfl, rfl⟩
  simp only [Option.isSome_none, Bool.false_eq_true, ↓reduceIte, Act.leads_bind, Act.leads_modify, Act.leads_pure]
  have some : (Echo.segments v.id (ss.map (·.text))).isEmpty = false := by
    rw [List.isEmpty_eq_false_iff, ← List.length_pos_iff, Echo.segments_length, List.length_map]
    omega
  have ready := at'.toReady.answered (r := ⟨Echo.segments v.id (ss.map (·.text)), none⟩) some (batchText ss)
    (v.id + ss.length) (v.accepted ++ ss.map (·.text))
  have accepted : v.accepted ++ ss.map (·.text) = textsTo doc n := by
    rw [at'.accepted, textsTo_window (show k ≤ n by omega), batch.window]
  have last := getLast?_window (show k < n by omega) bound
  rw [batch.window] at last
  have ids : (⟨Echo.segments v.id (ss.map (·.text)), none⟩ : Response).markers.map (·.id) =
      List.range' (k + 1) (n - k) := by
    have counted := Echo.segments_ids v.id (ss.map (·.text))
    rw [List.length_map, size, at'.id] at counted
    rw [Response.markers, List.map_map, at'.id]
    exact counted
  refine ⟨trivial, { at' with
    toReady := ready.moved _ _ _
    le := Nat.le_refl _
    bound
    sound := ?_
    offset := by rw [last]; rfl
    proved := ?_
    log := ?_
    id := ?_
    accepted }, v.taken_traffic _ _ _⟩
  · rw [SoundTo, ← accepted, at'.accepted]
    exact List.forall_mem_append.mpr ⟨at'.sound, sounds⟩
  · show e.proved + ss.length = n
    rw [at'.proved, size]
    omega
  · rw [ids, size]
    show (e.undo.acknowledgeBatch e.proved (n - k) _).1.Counts n
    have counts := at'.log.acknowledgeBatch (n - k)
    rwa [at'.proved, show k + (n - k) = n by omega] at *
  · show v.id + ss.length = n
    rw [at'.id, size]
    omega

/-- A batch with a statement that is rejected or deadly. -/
theorem executeBatch_stops (clear : Clear doc) {n : Nat} (several : k + 2 ≤ n) (bound : n ≤ (Statement.all doc).length)
    (at' : At doc k e v) {ss : List Statement} (batch : Batch doc k n ss) {before more : List String} {t : String}
    (split : ss.map (·.text) = before ++ t :: more) (sounds : ∀ t ∈ before, Echo.sound t = true)
    (stops : Echo.sound t = false) : (executeBatch ss).Leads contract (Batched doc k n)
      (fun fault e v => fault = death ∧ Fallen doc k e v) e v := by
  have few := clear.few
  have size := batch.size
  have split' : (((Statement.all doc).take n).drop k).map (·.text) = before ++ t :: more := by rwa [batch.window]
  obtain ⟨short, ahead, s, found, rfl⟩ := textsTo_split (by omega) bound split'
  have reads : (Statement.all (batchText ss)).map (·.text) = _ := batch.reads.trans split
  have bare : ∀ t ∈ before, '[' ∉ t.toList :=
    fun t mem => batch.plain t (by rw [split]; exact List.mem_append_left _ mem)
  have small : v.id + before.length ≤ maxWord := by
    rw [at'.id]
    omega
  have less : before.length < ss.length := by
    rw [size]
    omega
  simp only [executeBatch, Act.leads_bind]
  by_cases dies : Echo.crashes s.text = true
  · refine (submit_crashes at'.toReady before less batch.noUndo reads sounds dies bare small).mono
      (fun _ _ _ absurd => absurd.elim) ?_
    rintro _ _ _ ⟨rfl, rfl, rfl⟩
    exact ⟨rfl, at'.fallen rfl at'.free⟩
  have lives : Echo.crashes s.text = false := by simpa using dies
  have bad : Echo.fails s.text = true := by simpa [Echo.sound, lives] using stops
  refine (submit_fails at'.toReady before ss.length batch.noUndo reads sounds lives bad bare
    (clear.plain s (List.mem_of_getElem? found)) small).mono ?_ (fun _ _ _ absurd => absurd.elim)
  rintro r _ _ ⟨error, last, rfl, rfl⟩
  simp only [error, Option.isSome_some, ↓reduceIte, Act.leads_bind, Act.leads_get, Act.leads_pure, last,
    Option.map_some, Option.getD_some]
  have ready := at'.toReady.answered (segments_of_last? last) (batchText ss) (v.id + before.length)
    (v.accepted ++ before)
  rw [show (Echo.mark (v.id + before.length)).id = k + before.length from congrArg (· + before.length) at'.id]
  refine .rejected _ short { at' with
    toReady := ready
    le := Nat.le_add_right _ _
    bound := by omega
    sound := ?_
    id := congrArg (· + before.length) at'.id
    accepted := ?_ }
  · rw [SoundTo, ahead]
    exact List.forall_mem_append.mpr ⟨at'.sound, sounds⟩
  · rw [ahead, ← at'.accepted]
    rfl

theorem executeBatch_leads (clear : Clear doc) {n : Nat} (several : k + 2 ≤ n) (bound : n ≤ (Statement.all doc).length)
    (at' : At doc k e v) : (executeBatch (((Statement.all doc).take n).drop k)).Leads contract (Batched doc k n)
      (fun fault e v => fault = death ∧ Fallen doc k e v) e v := by
  have batch := batch_window clear several bound
  rcases split_sound ((((Statement.all doc).take n).drop k).map (·.text)) with
    sounds | ⟨before, t, more, split, sounds, stops⟩
  · refine (executeBatch_sound clear several bound at' batch sounds).mono ?_ (fun _ _ _ absurd => absurd.elim)
    rintro _ _ _ ⟨rfl, at₁, -⟩
    exact .accepted at₁
  · exact executeBatch_stops clear several bound at' batch split sounds stops

/-- What came of a batch is undone, or it is not and the process stays ahead. -/
theorem rewindBatch_leads (clear : Clear doc) (holds : Holds doc k m e v) :
    (rewindBatch k m).Leads contract
      (fun done e v => (done = true ∧ At doc k e v) ∨ (done = false ∧ Holds doc k m e v)) (fun _ _ _ => False) e v := by
  have few := clear.few
  have le := holds.le
  have bound := holds.bound
  have id := holds.id
  unfold rewindBatch
  by_cases same : m = k
  · subst same
    simpa using holds
  have small : k ≤ maxWord := by omega
  have undo := Echo.undoTarget?_undo small
  simp only [same, ↓reduceIte, Act.leads_bind, Act.leads_get, holds.log.valid, Bool.not_true, Bool.false_eq_true,
    Act.leads_attempt, holds.rules]
  by_cases refused : v.rejectsUndo = true
  · refine (submit_refused holds.toReady undo (.inl refused) (by omega)).mono ?_ (fun _ _ _ absurd => absurd.elim)
    rintro r _ _ ⟨error, last, rfl, rfl⟩
    have unanswered : (r.error.isNone && r.last?.any (·.id == k)) = false := by
      simp [Option.isSome_iff_ne_none.mp error]
    simp only [unanswered, Bool.false_eq_true, ↓reduceIte, Act.leads_pure]
    exact .inr ⟨trivial, { holds with toReady := holds.toReady.answered (segments_of_last? last) _ _ _ }⟩
  · have granted : v.rejectsUndo = false := by simpa using refused
    refine (submit_undo holds.toReady undo granted (by omega) small).mono ?_ (fun _ _ _ absurd => absurd.elim)
    rintro r _ _ ⟨error, last, rfl, rfl⟩
    have done : (r.error.isNone && r.last?.any (·.id == k)) = true := by simp [error, last, Echo.mark]
    simp only [done, ↓reduceIte, Act.leads_bind, Act.leads_modify, Act.leads_pure]
    have ready := holds.toReady.answered (segments_of_last? last) (Rules.standard.undo k) k (v.accepted.take k)
    refine .inl ⟨trivial, { holds with
      toReady := ready.moved _ _ _
      le := Nat.le_refl _
      bound := Nat.le_trans le bound
      sound := soundTo_le le holds.sound
      log := ?_
      id := rfl
      accepted := ?_ }⟩
    · show (e.undo.undone e.proved k).Counts k
      rw [holds.proved]
      exact holds.log.undone (Nat.le_refl k)
    · show v.accepted.take k = _
      rw [holds.accepted, take_textsTo le]

/-! ## Starting anew -/

theorem stopped_free (free : v.scripts = []) : v.stopped.scripts = [] := by
  unfold View.stopped
  split <;> exact free

theorem startSession_leads (reads : Reads doc e) (free : v.scripts = []) :
    startSession.Leads contract (fun _ e' v' => At doc 0 e' v' ∧ v' = v.started) (fun _ _ _ => False) e v := by
  simp only [startSession, Act.leads_bind, Act.leads_ask]
  refine asks_start ?_
  have started : UndoLog.startingAt e.rules.initialId = .startingAt 0 := by rw [reads.rules]; rfl
  have at' : ∀ pending : Bool, View.started v = { v.started with queue := if pending then [(0, banner)] else [] } →
      At doc 0 { e with inFlight := false, startupPending := pending, undo := .startingAt 0, offset := 0, proved := 0 }
        v.started := fun pending queue =>
    { settings := reads.settings, rules := reads.rules, document := reads.document, outline := reads.outline, gate := rfl,
      runs := rfl, free, queue := congrArg View.queue queue, le := Nat.le_refl _, bound := Nat.zero_le _,
      sound := fun t mem => by simp [textsTo] at mem, offset := rfl, proved := rfl, log := UndoLog.startingAt_counts,
      id := rfl, accepted := rfl }
  by_cases lazy : v.lazy = true
  · simp only [lazy, ↓reduceIte, Act.leads_orFail, Act.ends_ok, Act.leads_modify, Option.map_none, Option.getD_none, started,
      Option.isNone_none]
    exact ⟨at' true (by simp [View.started, lazy]), trivial⟩
  · simp only [lazy, Bool.false_eq_true, ↓reduceIte, Act.leads_orFail, Act.ends_ok, Act.leads_modify, Option.map_some,
      Option.getD_some, Option.isNone_some]
    exact ⟨at' false (by simp [View.started, lazy]), trivial⟩

theorem haltSession_leads {failed : Fault → Engine → View → Prop} {post : Unit → Engine → View → Prop}
    (next : post () e v.stopped) : haltSession.Leads contract post failed e v := by
  simp only [haltSession, Act.leads_bind, Act.leads_get, Act.leads_ask]
  exact asks_halt _ next

theorem restartAndReplay_leads (clear : Clear doc) {n : Nat} (le : k ≤ n) (bound : n ≤ (Statement.all doc).length)
    (reads : Reads doc e) (offset : e.offset = endOf doc k) (free : v.scripts = []) :
    (restartAndReplay (((Statement.all doc).take n).drop k)).Leads contract (fun _ => At doc n)
      (StoppedBefore doc n) e v := by
  have all : e.outline.upTo e.offset ++ ((Statement.all doc).take n).drop k = ((Statement.all doc).take n).drop 0 := by
    have front := List.take_append_drop k ((Statement.all doc).take n)
    rw [List.take_take, Nat.min_eq_left le] at front
    rw [offset, reads.upTo (Nat.le_trans le bound), front, List.drop_zero]
  simp only [restartAndReplay, Act.leads_bind, Act.leads_get, all]
  refine haltSession_leads ?_
  refine (startSession_leads reads (stopped_free free)).mono ?_ (fun _ _ _ absurd => absurd.elim)
  exact fun _ e' v' started => replay_leads clear bound (Nat.zero_le n) started.1

/-- Forward motion from where the engine and the process agree. -/
theorem forwardThrough_leads (clear : Clear doc) {n : Nat} (lt : k < n) (bound : n ≤ (Statement.all doc).length)
    (at' : At doc k e v) : (forwardThrough (((Statement.all doc).take n).drop k)).Leads contract (fun _ => At doc n)
      (StoppedBefore doc n) e v := by
  obtain ⟨s, found, rest⟩ := drop_take_cons lt bound
  by_cases one : n = k + 1
  · subst one
    rw [rest, List.drop_eq_nil_of_le (by rw [List.length_take]; omega)]
    refine (executeSingle_leads clear at' found).mono (fun _ _ _ next => next) ?_
    exact fun fault e' v' stopped => ⟨k, lt, s, found, stopped⟩
  obtain ⟨s', -, rest'⟩ := drop_take_cons (show k + 1 < n by omega) bound
  rw [forwardThrough.eq_2 _ (by rw [rest, rest']; simp)]
  simp only [Act.leads_bind, Act.leads_get, Act.leads_attempt]
  refine (executeBatch_leads clear (show k + 2 ≤ n by omega) bound at').mono ?_ ?_
  · intro result e₁ v₁ batched
    cases batched with
    | accepted at₁ => exact at₁
    | rejected m short holds =>
      simp only [Act.leads_bind, at'.log.current]
      refine (rewindBatch_leads clear holds).mono ?_ (fun _ _ _ absurd => absurd.elim)
      rintro done e₂ v₂ (⟨rfl, at₂⟩ | ⟨rfl, ahead⟩)
      · simp only [↓reduceIte]
        exact replay_leads clear bound (Nat.le_of_lt lt) at₂
      · simp only [Bool.false_eq_true, ↓reduceIte]
        exact restartAndReplay_leads clear (Nat.le_of_lt lt) bound ahead.toReads ahead.offset ahead.free
  · rintro _ e₁ v₁ ⟨rfl, fallen⟩
    simp only [death, Fault.losesPosition, ↓reduceIte]
    exact restartAndReplay_leads clear (Nat.le_of_lt lt) bound fallen.toReads fallen.offset fallen.free

/-- Forward motion over statements that are all accepted takes one command. -/
theorem forwardThrough_sound (clear : Clear doc) {n : Nat} (lt : k < n) (bound : n ≤ (Statement.all doc).length)
    (at' : At doc k e v) (sound : SoundTo doc n) :
    (forwardThrough (((Statement.all doc).take n).drop k)).Leads contract
      (fun _ e' v' => At doc n e' v' ∧ v.Traffic [batchText (((Statement.all doc).take n).drop k)] 0 v')
      (fun _ _ _ => False) e v := by
  have sounds : ∀ t ∈ (((Statement.all doc).take n).drop k).map (·.text), Echo.sound t = true := by
    intro t mem
    refine sound t ?_
    rw [textsTo_window (Nat.le_of_lt lt)]
    exact List.mem_append_right _ mem
  obtain ⟨s, found, rest⟩ := drop_take_cons lt bound
  by_cases one : n = k + 1
  · subst one
    rw [List.drop_eq_nil_of_le (i := k + 1) (by rw [List.length_take]; omega)] at rest
    rw [rest] at sounds ⊢
    rw [batchText, List.map_singleton, String.intercalate_singleton]
    exact executeSingle_sound clear at' found (by simpa using sounds)
  obtain ⟨s', -, rest'⟩ := drop_take_cons (show k + 1 < n by omega) bound
  have several : k + 2 ≤ n := by omega
  rw [forwardThrough.eq_2 _ (by rw [rest, rest']; simp)]
  simp only [Act.leads_bind, Act.leads_get, Act.leads_attempt]
  refine (executeBatch_sound clear several bound at' (batch_window clear several bound) sounds).mono ?_
    (fun _ _ _ absurd => absurd.elim)
  rintro _ _ _ ⟨rfl, at₁, traffic⟩
  exact ⟨at₁, traffic⟩

/-- A recovery starts a process, and then takes the way forward. -/
theorem recoverTo_anew {n : Nat} (bound : n ≤ (Statement.all doc).length) (reads : Reads doc e) (free : v.scripts = [])
    {post : Unit → Engine → View → Prop} {failed : Fault → Engine → View → Prop}
    (none : n = 0 → ∀ e₁, At doc 0 e₁ v.stopped.started → post () e₁ v.stopped.started)
    (some : 0 < n → ∀ e₁, At doc 0 e₁ v.stopped.started →
      (forwardThrough (((Statement.all doc).take n).drop 0)).Leads contract post failed e₁ v.stopped.started) :
    (recoverTo (endOf doc n)).Leads contract post failed e v := by
  simp only [recoverTo, Act.leads_bind, Act.leads_get, Act.leads_modify]
  refine haltSession_leads ?_
  have reads' : Reads doc { e with activity := .recovering } :=
    ⟨reads.settings, reads.rules, reads.document, reads.outline⟩
  refine (startSession_leads reads' (stopped_free free)).mono ?_ (fun _ _ _ absurd => absurd.elim)
  rintro _ e₁ _ ⟨at₁, rfl⟩
  rw [at₁.toReads.upTo bound]
  rcases Nat.eq_zero_or_pos n with rfl | lt
  · exact none rfl e₁ at₁
  · have more : ((Statement.all doc).take n).isEmpty = false := by
      rw [List.isEmpty_eq_false_iff, ← List.length_pos_iff, List.length_take]
      omega
    simp only [more, Bool.not_false, ↓reduceIte]
    exact some lt e₁ at₁

theorem recoverTo_leads (clear : Clear doc) {n : Nat} (bound : n ≤ (Statement.all doc).length) (reads : Reads doc e)
    (free : v.scripts = []) :
    (recoverTo (endOf doc n)).Leads contract (fun _ => At doc n) (StoppedBefore doc n) e v := by
  refine recoverTo_anew bound reads free ?_ fun lt e₁ at₁ => forwardThrough_leads clear lt bound at₁
  rintro rfl e₁ at₁
  exact at₁

/-- The commands that have statements verified in a new process. -/
def replayed (ss : List Statement) : List String := if ss.isEmpty then [] else [batchText ss]

/-- Statements that were accepted once are accepted anew. -/
theorem recoverTo_sound (clear : Clear doc) {n : Nat} (reads : Reads doc e) (free : v.scripts = [])
    (bound : n ≤ (Statement.all doc).length) (sound : SoundTo doc n) :
    (recoverTo (endOf doc n)).Leads contract
      (fun _ e' v' => At doc n e' v' ∧ v.Traffic (replayed ((Statement.all doc).take n)) 1 v') (fun _ _ _ => False)
      e v := by
  refine recoverTo_anew bound reads free ?_ ?_
  · rintro rfl e₁ at₁
    exact ⟨at₁, v.restarted_traffic⟩
  · intro lt e₁ at₁
    refine (forwardThrough_sound clear lt bound at₁ sound).mono ?_ (fun _ _ _ absurd => absurd)
    rintro _ e₂ v₂ ⟨at₂, traffic⟩
    have more : ((Statement.all doc).take n).isEmpty = false := by
      rw [List.isEmpty_eq_false_iff, ← List.length_pos_iff, List.length_take]
      omega
    rw [replayed, more]
    exact ⟨at₂, v.restarted_traffic.trans traffic⟩

end Frontier.Engine
