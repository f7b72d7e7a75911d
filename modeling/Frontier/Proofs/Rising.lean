import Frontier.Proofs.StateStack

/-!
# Rising states

The states that a log holds rise strictly, up to the current one. An acknowledged statement raises the state number, or
the log is out of order; only an undo may bring in a number that the log did not expect. As long as this number lies
above the state before the last statement that is kept, the states still rise, so that every undo goes down, and undos
that keep different counts of statements go to different states.
-/

namespace Frontier

/-- Two runs of numbers that rise, and meet in one number, rise as one. -/
theorem rising_meet {front more : List Nat} {state : Nat} (first : (front ++ [state]).Pairwise (· < ·))
    (second : (state :: more).Pairwise (· < ·)) : (front ++ state :: more).Pairwise (· < ·) := by
  obtain ⟨rising, -, below⟩ := List.pairwise_append.mp first
  refine List.pairwise_append.mpr ⟨rising, second, ?_⟩
  intro a before b after
  have lower : a < state := below a before state List.mem_cons_self
  rcases List.mem_cons.mp after with rfl | later
  · exact lower
  · exact Nat.lt_trans lower (List.rel_of_pairwise_cons second later)

namespace UndoLog

/-- An undo that keeps statements is answered with a number above the state before the last of them. -/
def Entry.Fair (l : UndoLog) : Entry → Prop
  | .undone kept id => l.valid = true → 0 < kept → kept ≤ l.size → ∀ state ∈ l.before[kept - 1]?, state < id
  | _ => True

/-- Every entry is fair to the log that it is made in. -/
def FairAll (l : UndoLog) : List Entry → Prop
  | [] => True
  | e :: rest => e.Fair l ∧ FairAll (l.enter e).1 rest

instance (l : UndoLog) (e : Entry) : Decidable (e.Fair l) :=
  match e with
  | .undone kept id =>
    inferInstanceAs (Decidable (l.valid = true → 0 < kept → kept ≤ l.size → ∀ state ∈ l.before[kept - 1]?, state < id))
  | .begin _ | .reset | .invalidate _ | .announce _ | .acknowledge .. | .acknowledgeBatch .. | .undoTarget ..
  | .stateBefore _ => inferInstanceAs (Decidable True)

instance decidableFairAll (l : UndoLog) (entries : List Entry) : Decidable (l.FairAll entries) :=
  match entries with
  | [] => inferInstanceAs (Decidable True)
  | e :: rest =>
    have := decidableFairAll (l.enter e).1 rest
    inferInstanceAs (Decidable (e.Fair l ∧ FairAll (l.enter e).1 rest))

end UndoLog

open UndoLog (Entry)

namespace StateStack

variable {s : StateStack}

/-- The states of a stack that has not failed rise strictly. -/
def Rising (s : StateStack) : Prop := s.failed = false → s.states.Pairwise (· < ·)

theorem begun_rising (initial : Nat) : (begun initial).Rising := fun _ => List.pairwise_singleton _ _

theorem fail_rising (s : StateStack) : s.fail.Rising := fun standing => by cases standing

theorem Rising.push (rising : s.Rising) {ids : List Nat} (above : (s.top :: ids).Pairwise (· < ·)) :
    (s.push ids).Rising := by
  intro standing
  have whole : s.states.dropLast ++ [s.top] = s.states := List.dropLast_append_getLast s.nonempty
  have met := rising_meet (whole.symm ▸ rising standing) above
  rwa [List.append_cons, whole] at met

theorem Rising.cut (rising : s.Rising) {kept id : Nat} (within : kept < s.states.length)
    (above : ∀ state ∈ s.states.dropLast[kept - 1]?, s.failed = false → 0 < kept → state < id) :
    (s.cut kept id).Rising := by
  intro standing
  show (s.states.take kept ++ [id]).Pairwise (· < ·)
  cases kept with
  | zero => exact List.pairwise_singleton _ _
  | succ last =>
    have held : last < s.states.length := by omega
    have state : s.states.dropLast[last]? = some s.states[last] := by
      rw [List.getElem?_dropLast, if_pos (by omega), List.getElem?_eq_getElem held]
    have lower : s.states[last] < id := above _ state standing (Nat.succ_pos last)
    have front : (s.states.take last ++ [s.states[last]]).Pairwise (· < ·) := by
      rw [List.take_append_getElem held]
      exact (rising standing).sublist (List.take_sublist _ _)
    rw [← List.take_append_getElem held, List.append_assoc]
    exact rising_meet front (List.pairwise_pair.mpr lower)

/-- A fair entry leaves the states rising. -/
theorem Rising.enter {l : UndoLog} (holds : l.Holds s) (rising : s.Rising) {e : Entry} (fair : e.Fair l) :
    (s.enter e).1.Rising := by
  cases e with
  | begin initial => exact begun_rising initial
  | reset => exact begun_rising s.initial
  | invalidate reason => exact fail_rising s
  | announce index =>
    rw [StateStack.enter]
    split
    · exact rising
    · exact rising
  | acknowledge index id =>
    rw [StateStack.enter]
    split
    · next accepts => exact rising.push (List.pairwise_pair.mpr accepts.2.2.2)
    · exact fail_rising s
  | acknowledgeBatch index count ids =>
    rw [StateStack.enter]
    split
    · next accepts => exact rising.push accepts.2.2.2
    · exact fail_rising s
  | undone kept id =>
    rw [StateStack.enter]
    by_cases failed : s.failed = true
    · rw [if_pos failed]
      exact rising
    rw [if_neg failed]
    by_cases within : kept < s.states.length
    · rw [if_pos within]
      refine rising.cut within ?_
      intro state before standing some
      have size := holds.size
      exact fair (holds.order.mpr standing) some (by omega) state (holds.before ▸ before)
    · rw [if_neg within]
      exact fail_rising s
  | undoTarget executed target => exact rising
  | stateBefore index => exact rising

theorem Rising.enterAll {l : UndoLog} (holds : l.Holds s) (rising : s.Rising) {entries : List Entry}
    (fair : l.FairAll entries) : (s.enterAll entries).Rising := by
  -- The condition on an undo reads the log that it is made in, so log and stack move on together.
  induction entries generalizing l s with
  | nil => exact rising
  | cons e rest ih => exact ih (holds.enter e).1 (rising.enter holds fair.1) fair.2

end StateStack

namespace UndoLog

/-- The states of a log rise strictly up to the current one, and so do the states that it may have restored. -/
structure Rises (l : UndoLog) : Prop where
  states : (l.before ++ [l.current]).Pairwise (· < ·)
  below : ∀ {executed target state}, 0 ≤ target → l.undoTarget? executed target = some state → state < l.current
  apart : ∀ {executed executed' target target' state}, 0 ≤ target → 0 ≤ target' →
    l.undoTarget? executed target = some state → l.undoTarget? executed' target' = some state → target = target'

variable {l : UndoLog}

theorem undoTarget?_nonneg {executed : Nat} {target : Int} {state : Nat} (forward : 0 ≤ target)
    (found : l.undoTarget? executed target = some state) : l.before[target.toNat]? = some state := by
  unfold undoTarget? at found
  split at found
  · cases found
  · rw [if_neg (Int.not_lt.mpr forward)] at found
    split at found
    · exact found
    · cases found

theorem rises_of_pairwise (states : (l.before ++ [l.current]).Pairwise (· < ·)) : l.Rises where
  states := states
  below forward found :=
    (List.pairwise_append.mp states).2.2 _ (List.mem_of_getElem? (undoTarget?_nonneg forward found)) _
      List.mem_cons_self
  apart {_ _ target target' _} forward forward' found found' := by
    have distinct : l.before.Nodup := (List.pairwise_append.mp states).1.imp Nat.ne_of_lt
    have first := undoTarget?_nonneg forward found
    have second := undoTarget?_nonneg forward' found'
    have within := (List.getElem?_eq_some_iff.mp first).1
    have same := (List.getElem?_inj within distinct).mp (first.trans second.symm)
    omega

end UndoLog

/-- After any entries that are fair, a log in order holds rising states. -/
theorem fair_log_rises (initial : Nat) (entries : List Entry) (fair : (UndoLog.startingAt initial).FairAll entries)
    (order : ((UndoLog.startingAt initial).enterAll entries).valid = true) :
    ((UndoLog.startingAt initial).enterAll entries).Rises := by
  have start := UndoLog.startingAt_holds initial
  have holds := start.enterAll entries
  have rising := (StateStack.begun_rising initial).enterAll start fair (holds.order.mp order)
  refine UndoLog.rises_of_pairwise ?_
  rw [holds.before, holds.current]
  exact (List.dropLast_append_getLast _).symm ▸ rising

/-- An undo to one statement is answered with the number 4, where 3 was recorded; a statement is announced twice, and a
batch goes on from the foreign number. -/
theorem adopted_state_rises :
    (UndoLog.startingAt 0).FairAll [.announce 0, .acknowledge 0 2, .announce 1, .acknowledge 1 3, .announce 7,
        .undone 1 4, .announce 1, .announce 1, .acknowledge 1 6, .acknowledgeBatch 2 2 [7, 9]] ∧
      ((UndoLog.startingAt 0).enterAll [.announce 0, .acknowledge 0 2, .announce 1, .acknowledge 1 3, .announce 7,
        .undone 1 4, .announce 1, .announce 1, .acknowledge 1 6, .acknowledgeBatch 2 2 [7, 9]]).before =
          [0, 4, 6, 7] ∧
      ((UndoLog.startingAt 0).enterAll [.announce 0, .acknowledge 0 2, .announce 1, .acknowledge 1 3, .announce 7,
        .undone 1 4, .announce 1, .announce 1, .acknowledge 1 6, .acknowledgeBatch 2 2 [7, 9]]).Rises := by
  have fair : (UndoLog.startingAt 0).FairAll [.announce 0, .acknowledge 0 2, .announce 1, .acknowledge 1 3,
      .announce 7, .undone 1 4, .announce 1, .announce 1, .acknowledge 1 6, .acknowledgeBatch 2 2 [7, 9]] := by
    decide
  exact ⟨fair, by decide, fair_log_rises 0 _ fair (by decide)⟩

end Frontier
