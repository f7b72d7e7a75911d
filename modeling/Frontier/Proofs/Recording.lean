import Frontier.Proofs.StateStack

/-!
# Batches and single statements in the undo log

A batch is recorded as its statements would be one by one, but as a whole: if one of its numbers does not rise, nothing
of it is, while single statements are kept up to that one. The log is out of order for the same reason then.
-/

namespace Frontier
namespace UndoLog

/-- Records statements from `index` on one by one, each announced before it is acknowledged; says whether all of them
were in order. -/
def acknowledgeEach (l : UndoLog) (index : Nat) : List Nat → UndoLog × Bool
  | [] => (l, true)
  | id :: rest =>
    let one := (l.announce index).acknowledge index id
    let others := one.1.acknowledgeEach (index + 1) rest
    (others.1, one.2 && others.2)

variable {l : UndoLog} {state : Nat} {ids risen rest : List Nat} {id : Nat}

/-- The first of the numbers that does not rise is `id`, after the numbers `risen`. -/
structure Falls (state : Nat) (ids risen : List Nat) (id : Nat) (rest : List Nat) : Prop where
  split : ids = risen ++ id :: rest
  rising : (state :: risen).Pairwise (· < ·)
  falls : id ≤ (state :: risen).getLast (List.cons_ne_nil _ _)

theorem rising_cons (rises : state < id) (rising : (id :: ids).Pairwise (· < ·)) :
    (state :: id :: ids).Pairwise (· < ·) := by
  refine List.pairwise_cons.mpr ⟨?_, rising⟩
  intro other mem
  rcases List.mem_cons.mp mem with rfl | later
  · exact rises
  · exact Nat.lt_trans rises (List.rel_of_pairwise_cons rising later)

theorem falls_of_not_rising (not : ¬ (state :: ids).Pairwise (· < ·)) : ∃ risen id rest, Falls state ids risen id rest := by
  induction ids generalizing state with
  | nil => exact absurd (List.pairwise_singleton _ _) not
  | cons first ids ih =>
    by_cases rises : state < first
    · obtain ⟨risen, id, rest, rfl, rising, falls⟩ := ih fun more => not (rising_cons rises more)
      refine ⟨first :: risen, id, rest, rfl, rising_cons rises rising, ?_⟩
      rwa [List.getLast_cons (List.cons_ne_nil _ _)]
    · exact ⟨[], first, ids, rfl, List.pairwise_singleton _ _, Nat.not_lt.mp rises⟩

theorem Falls.climb (falls : Falls state ids risen id rest) :
    climb state ids = .error (.notRising ((state :: risen).getLast (List.cons_ne_nil _ _)) id) := by
  obtain ⟨rfl, rising, falls⟩ := falls
  induction risen generalizing state with
  | nil =>
    rw [List.nil_append, UndoLog.climb]
    exact if_pos falls
  | cons first risen ih =>
    obtain ⟨below, rising⟩ := List.pairwise_cons.mp rising
    rw [List.getLast_cons (List.cons_ne_nil _ _)] at falls
    rw [List.cons_append, UndoLog.climb, if_neg (Nat.not_le.mpr (below first List.mem_cons_self)), ih rising falls,
      List.getLast_cons (List.cons_ne_nil _ _)]
    rfl

/-! ## One by one -/

/-- A statement that stands next is recorded just if its number rises. -/
theorem announce_acknowledge (order : l.valid = true) (id : Nat) :
    (l.announce l.size).acknowledge l.size id =
      if l.current < id then ({ l with awaited := none, before := l.before ++ [l.current], current := id }, true)
      else ({ l with awaited := none, disorder := some (.notRising l.current id) }, false) := by
  have ordered : UndoLog.valid { l with awaited := none } = true := order
  have announced : UndoLog.valid { l with awaited := some (l.size, l.current) } = true := order
  have size : UndoLog.size { l with awaited := some (l.size, l.current) } = l.size := rfl
  by_cases rises : l.current < id
  · simp [announce, acknowledge, order, announced, size, rises]
  · simp [announce, acknowledge, invalidate, order, ordered, announced, size, rises, Nat.not_lt.mp rises]

/-- The log has recorded statements with these numbers. -/
structure Grown (l : UndoLog) (ids : List Nat) (l' : UndoLog) : Prop where
  order : l'.valid = true
  before : l'.before = l.before ++ (l.current :: ids).dropLast
  current : l'.current = (l.current :: ids).getLast (List.cons_ne_nil _ _)

theorem acknowledgeEach_rising (order : l.valid = true) (rising : (l.current :: risen).Pairwise (· < ·))
    (rest : List Nat) : ∃ l', l.Grown risen l' ∧ l.acknowledgeEach l.size (risen ++ rest) = l'.acknowledgeEach l'.size rest := by
  -- Each statement moves the log on, so the induction is for all logs.
  induction risen generalizing l with
  | nil => exact ⟨l, ⟨order, by simp, rfl⟩, rfl⟩
  | cons id risen ih =>
    obtain ⟨below, rising⟩ := List.pairwise_cons.mp rising
    have first := announce_acknowledge order id
    rw [if_pos (below id List.mem_cons_self)] at first
    obtain ⟨l', ⟨order', before, current⟩, same⟩ :=
      ih (l := { l with awaited := none, before := l.before ++ [l.current], current := id }) order rising
    refine ⟨l', ⟨order', ?_, ?_⟩, ?_⟩
    · rw [before, List.append_assoc]
      rfl
    · rw [current, List.getLast_cons (List.cons_ne_nil _ _)]
    · rw [List.cons_append, acknowledgeEach, first, ← same]
      simp [UndoLog.size]

/-- A log out of order records nothing. -/
theorem acknowledgeEach_broken (broken : l.valid = false) (index : Nat) (ids : List Nat) :
    (l.acknowledgeEach index ids).1 = l := by
  induction ids generalizing index with
  | nil => rfl
  | cons id rest ih =>
    have one : ((l.announce index).acknowledge index id).1 = l := by simp [announce, acknowledge, broken]
    rw [acknowledgeEach]
    simp only [one, ih]

theorem acknowledgeEach_falls (order : l.valid = true) (falls : Falls l.current ids risen id rest) :
    ∃ l', l.acknowledgeEach l.size ids = (l', false) ∧ l'.before = l.before ++ (l.current :: risen).dropLast ∧
      l'.current = (l.current :: risen).getLast (List.cons_ne_nil _ _) ∧
      l'.disorder = some (.notRising ((l.current :: risen).getLast (List.cons_ne_nil _ _)) id) := by
  obtain ⟨rfl, rising, falls⟩ := falls
  obtain ⟨l', ⟨order', before, current⟩, same⟩ := acknowledgeEach_rising order rising (id :: rest)
  have last := announce_acknowledge order' id
  rw [if_neg (by rw [current]; exact Nat.not_lt.mpr falls)] at last
  have broken : UndoLog.valid { l' with awaited := none, disorder := some (.notRising l'.current id) } = false := rfl
  refine ⟨{ l' with awaited := none, disorder := some (.notRising l'.current id) }, ?_, before, current, ?_⟩
  · rw [same, acknowledgeEach, last]
    simp [acknowledgeEach_broken broken]
  · rw [← current]

/-! ## At once -/

theorem acknowledgeBatch_climbs (order : l.valid = true) {states : List Nat} {last : Nat}
    (climbs : climb l.current ids = .ok (states, last)) :
    l.acknowledgeBatch l.size ids.length ids =
      ({ l with awaited := none, before := l.before ++ states, current := last }, true) := by
  simp [acknowledgeBatch, order, climbs]

theorem acknowledgeBatch_falls (order : l.valid = true) {reason : Disorder}
    (falls : climb l.current ids = .error reason) :
    l.acknowledgeBatch l.size ids.length ids = ({ l with awaited := none, disorder := some reason }, false) := by
  have ordered : UndoLog.valid { l with awaited := none } = true := order
  simp [acknowledgeBatch, invalidate, order, ordered, falls]

end UndoLog

open UndoLog

/-- A batch that follows the last statement is recorded if its statements would be one by one, and the log shows the
same then. Else both logs are out of order for the same reason; the batch has left the states as they were, and single
statements are recorded up to the first whose number does not rise. -/
theorem batch_records_as_steps {l : UndoLog} (order : l.valid = true) (ids : List Nat) :
    ∃ batch steps inOrder, l.acknowledgeBatch l.size ids.length ids = (batch, inOrder) ∧
      l.acknowledgeEach l.size ids = (steps, inOrder) ∧
      (inOrder = true → batch.snapshot = steps.snapshot ∧ batch.valid = true) ∧
      (inOrder = false → ∃ risen id rest, Falls l.current ids risen id rest ∧
        batch.disorder = some (.notRising ((l.current :: risen).getLast (List.cons_ne_nil _ _)) id) ∧
        steps.disorder = batch.disorder ∧ batch.before = l.before ∧ batch.current = l.current ∧
        steps.before = l.before ++ (l.current :: risen).dropLast ∧
        steps.current = (l.current :: risen).getLast (List.cons_ne_nil _ _)) := by
  by_cases rising : (l.current :: ids).Pairwise (· < ·)
  · have climbs := climb_eq l.current ids
    rw [if_pos rising] at climbs
    obtain ⟨steps, ⟨order', before, current⟩, same⟩ := acknowledgeEach_rising order rising []
    rw [List.append_nil, acknowledgeEach] at same
    have disorder : steps.disorder = l.disorder := by
      rw [Option.isNone_iff_eq_none.mp order', Option.isNone_iff_eq_none.mp order]
    refine ⟨_, steps, true, acknowledgeBatch_climbs order climbs, same, ?_, by simp⟩
    intro _
    constructor
    · simp only [snapshot, valid, before, current, disorder]
    · exact order
  · obtain ⟨risen, id, rest, falls⟩ := falls_of_not_rising rising
    obtain ⟨steps, same, before, current, disorder⟩ := acknowledgeEach_falls order falls
    refine ⟨_, steps, false, acknowledgeBatch_falls order falls.climb, same, by simp, ?_⟩
    intro _
    exact ⟨risen, id, rest, falls, rfl, disorder, rfl, rfl, before, current⟩

/-- After an undo that was answered with a foreign number, and with a statement still announced. -/
theorem batch_records_as_steps_adopted :
    ((startingAt 0).enterAll [.announce 0, .acknowledge 0 3, .undone 0 5, .announce 4]).valid = true ∧
      ∃ batch steps inOrder,
        ((startingAt 0).enterAll [.announce 0, .acknowledge 0 3, .undone 0 5, .announce 4]).acknowledgeBatch 0 4
          [6, 9, 9, 12] = (batch, inOrder) ∧
        ((startingAt 0).enterAll [.announce 0, .acknowledge 0 3, .undone 0 5, .announce 4]).acknowledgeEach 0
          [6, 9, 9, 12] = (steps, inOrder) ∧ inOrder = false ∧ steps.disorder = batch.disorder ∧
        batch.before = [] ∧ batch.current = 5 ∧ steps.before = [5, 6] := by
  have order : ((startingAt 0).enterAll [.announce 0, .acknowledge 0 3, .undone 0 5, .announce 4]).valid = true := by
    decide
  obtain ⟨batch, steps, inOrder, atOnce, singly, -, falls⟩ := batch_records_as_steps order [6, 9, 9, 12]
  have refused : inOrder = false := (congrArg Prod.snd atOnce).symm.trans (by decide)
  obtain ⟨-, -, -, -, -, same, before, current, -, -⟩ := falls refused
  have kept : steps.before = [5, 6] := (congrArg (·.1.before) singly).symm.trans (by decide)
  exact ⟨order, batch, steps, inOrder, atOnce, singly, refused, same, before, current, kept⟩

end Frontier
