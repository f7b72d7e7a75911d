import Frontier.UndoLog
import Mathlib.Logic.Basic

/-!
# The undo log under any numbers

Whatever numbers a log is told, it takes them in full or is out of order from then on. While it is in order, its size
and its last state are therefore those of the last record.
-/

namespace Frontier

/-- Whether the reason is that the log and the count of executed statements differ. -/
def Disorder.mismatch : Disorder → Bool
  | .countMismatch .. => true
  | _ => false

namespace UndoLog

/-- The log was not found to differ from the count of executed statements. -/
def Matched (l : UndoLog) : Prop := ∀ d, l.disorder = some d → d.mismatch = false

/-- What a record makes of a log: it is out of order, or holds so many statements and ends in this state. -/
structure Records (l l' : UndoLog) (size current : Nat) : Prop where
  order : l'.valid = true → l.valid = true ∧ l'.size = size ∧ l'.current = current
  matched : l.Matched → l'.Matched

theorem matched_of_valid {l : UndoLog} (valid : l.valid = true) : l.Matched := by
  intro d disorder
  simp [UndoLog.valid, disorder] at valid

theorem invalidate_valid (l : UndoLog) (d : Disorder) : (l.invalidate d).valid = false := by
  unfold invalidate
  split
  · rfl
  · next broken => simpa using broken

theorem Matched.invalidate {l : UndoLog} (matched : l.Matched) {d : Disorder} (other : d.mismatch = false) :
    (l.invalidate d).Matched := by
  unfold UndoLog.invalidate
  split
  · rintro _ ⟨⟩
    exact other
  · exact matched

variable {l : UndoLog}

theorem announce_valid (l : UndoLog) (index : Nat) : (l.announce index).valid = l.valid := by
  unfold announce
  split <;> rfl

theorem announce_size (l : UndoLog) (index : Nat) : (l.announce index).size = l.size := by
  unfold announce
  split <;> rfl

theorem announce_current (l : UndoLog) (index : Nat) : (l.announce index).current = l.current := by
  unfold announce
  split <;> rfl

theorem Matched.announce (matched : l.Matched) (index : Nat) : (l.announce index).Matched := by
  unfold UndoLog.announce
  split
  · exact matched
  · exact matched

/-- A log that is put out of order records whatever it is said to. -/
theorem records_invalidate (taken : UndoLog) {d : Disorder} (other : d.mismatch = false) (size current : Nat)
    (same : taken.disorder = l.disorder) : l.Records (taken.invalidate d) size current where
  order valid := by simp [invalidate_valid] at valid
  matched matched := Matched.invalidate (fun d disorder => matched d (same ▸ disorder)) other

/-- A log that was out of order stays as it is. -/
theorem records_broken (broken : (!l.valid) = true) (size current : Nat) : l.Records l size current where
  order valid := by simp [valid] at broken
  matched matched := matched

theorem acknowledge_records (l : UndoLog) (index id : Nat) :
    l.Records (l.acknowledge index id).1 (index + 1) id := by
  unfold acknowledge
  by_cases broken : (!l.valid) = true
  · rw [if_pos broken]
    exact records_broken broken _ _
  rw [if_neg broken]
  dsimp only
  split
  · exact records_invalidate _ rfl _ _ rfl
  · next announced state awaited =>
    by_cases turn : announced ≠ index
    · rw [if_pos turn]
      exact records_invalidate _ rfl _ _ rfl
    by_cases place : index ≠ l.size
    · rw [if_neg turn, if_pos place]
      exact records_invalidate _ rfl _ _ rfl
    by_cases falls : id ≤ state
    · rw [if_neg turn, if_neg place, if_pos falls]
      exact records_invalidate _ rfl _ _ rfl
    rw [if_neg turn, if_neg place, if_neg falls]
    refine ⟨fun valid => ⟨valid, ?_, rfl⟩, fun matched => matched⟩
    show (l.before ++ [state]).length = index + 1
    rw [List.length_append, List.length_singleton, not_ne_iff.mp place]
    rfl

theorem climb_length {state last : Nat} {ids states : List Nat} (climbs : climb state ids = .ok (states, last)) :
    states.length = ids.length ∧ last = ids.getLast?.getD state := by
  induction ids generalizing state states with
  | nil =>
    cases climbs
    exact ⟨rfl, rfl⟩
  | cons id rest ih =>
    unfold climb at climbs
    split at climbs
    · cases climbs
    · cases more : climb id rest with
      | error reason => simp [more, Except.map] at climbs
      | ok found =>
        obtain ⟨states', last'⟩ := found
        simp only [more, Except.map, Except.ok.injEq, Prod.mk.injEq] at climbs
        obtain ⟨rfl, rfl⟩ := climbs
        obtain ⟨length, last⟩ := ih more
        refine ⟨by simp [length], ?_⟩
        rw [last, List.getLast?_cons]
        rfl

theorem climb_mismatch {state : Nat} {ids : List Nat} {d : Disorder} (climbs : climb state ids = .error d) :
    d.mismatch = false := by
  induction ids generalizing state with
  | nil => cases climbs
  | cons id rest ih =>
    unfold climb at climbs
    split at climbs
    · cases climbs
      rfl
    · cases more : climb id rest with
      | error reason =>
        simp only [more, Except.map, Except.error.injEq] at climbs
        subst climbs
        exact ih more
      | ok found => simp [more, Except.map] at climbs

theorem acknowledgeBatch_records (l : UndoLog) (index count : Nat) (ids : List Nat) :
    l.Records (l.acknowledgeBatch index count ids).1 (index + count) (ids.getLast?.getD l.current) := by
  unfold acknowledgeBatch
  by_cases broken : (!l.valid) = true
  · rw [if_pos broken]
    exact records_broken broken _ _
  rw [if_neg broken]
  dsimp only
  by_cases number : ids.length ≠ count
  · rw [if_pos number]
    exact records_invalidate _ rfl _ _ rfl
  by_cases place : index ≠ l.size
  · rw [if_neg number, if_pos place]
    exact records_invalidate _ rfl _ _ rfl
  rw [if_neg number, if_neg place]
  cases climbs : climb l.current ids with
  | error reason => exact records_invalidate _ (climb_mismatch climbs) _ _ rfl
  | ok found =>
    obtain ⟨states, last⟩ := found
    obtain ⟨length, rfl⟩ := climb_length climbs
    refine ⟨fun valid => ⟨valid, ?_, rfl⟩, fun matched => matched⟩
    show (l.before ++ states).length = index + count
    rw [List.length_append, length, not_ne_iff.mp number, not_ne_iff.mp place]
    rfl

theorem undone_records (l : UndoLog) (kept id : Nat) : l.Records (l.undone kept id) kept id := by
  unfold undone
  by_cases broken : (!l.valid) = true
  · rw [if_pos broken]
    exact records_broken broken _ _
  rw [if_neg broken]
  dsimp only
  by_cases beyond : l.size < kept
  · rw [if_pos beyond]
    exact records_invalidate _ rfl _ _ rfl
  rw [if_neg beyond]
  refine ⟨fun valid => ⟨valid, ?_, rfl⟩, fun matched => matched⟩
  show (l.before.take kept).length = kept
  rw [List.length_take]
  exact Nat.min_eq_left (Nat.not_lt.mp beyond)

end UndoLog
end Frontier
