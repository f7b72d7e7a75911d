import Frontier.Transaction
import Mathlib.Data.List.Basic

/-!
# Guarded publications

An operation may publish if its transaction is the newest and has not ended; every other end is refused, whether it is
late, repeated, or of a transaction that was never begun. So the numbers that may publish rise strictly. A reader drops a
number below one it was shown before: whatever order publications reach it in, what it accepts does not fall, and of
publications that come in the order of their emission it drops none.
-/

namespace Frontier

/-! ## Transactions -/

namespace TransactionLog

/-- A log is changed only by an end that is granted. -/
theorem finish_log (l : TransactionLog) (t : Transaction) :
    (l.finish t).1 = if (l.finish t).2 then { l with current := none } else l := by
  rw [finish]
  split
  · split <;> rfl
  · rfl

/-- What may be asked of a log. Any transaction may be given to be ended. -/
inductive Call where
  | begin (reason : Reason)
  | finish (t : Transaction)
  deriving DecidableEq, Repr

/-- A log, with all numbers that it has given out and those that it has let publish, in order. -/
structure History where
  log : TransactionLog := {}
  issued : List Nat := []
  granted : List Nat := []
  deriving DecidableEq, Repr

namespace History

/-- What a call adds. -/
def call (h : History) : Call → History
  | .begin reason =>
    { h with log := (h.log.begin reason).1, issued := h.issued ++ [(h.log.begin reason).2.id] }
  | .finish t =>
    { h with
      log := (h.log.finish t).1
      granted := if (h.log.finish t).2 then h.granted ++ [t.id] else h.granted }

/-- The history of a new log. -/
def of (calls : List Call) : History := calls.foldl call {}

/-- The numbers are given out from 1 on, and only the newest one can be open; it is open until it is let publish. -/
structure Ordered (h : History) : Prop where
  issued : h.issued = List.range' 1 h.log.lastId
  granted : h.granted.Pairwise (· < ·)
  bound : ∀ id ∈ h.granted, id ≤ h.log.lastId
  opened : ∀ t ∈ h.log.current, t.id = h.log.lastId ∧ 0 < t.id ∧ t.id ∉ h.granted
  closed : h.log.current = none → h.log.lastId = 0 ∨ h.log.lastId ∈ h.granted

variable {h : History}

theorem Ordered.newest (ordered : h.Ordered) (id : Nat) :
    h.issued.getLast? = some id ↔ 0 < h.log.lastId ∧ id = h.log.lastId := by
  rw [ordered.issued, List.getLast?_range']
  split
  · simp [*]
  · simp only [Option.some.injEq]
    omega

/-- Just the newest transaction may publish, and only once. -/
theorem Ordered.finish_iff (ordered : h.Ordered) (t : Transaction) :
    (h.log.finish t).2 = true ↔ h.issued.getLast? = some t.id ∧ t.id ∉ h.granted := by
  rw [ordered.newest, finish]
  cases current : h.log.current with
  | none =>
    simp only [Bool.false_eq_true, false_iff]
    rintro ⟨⟨some, last⟩, fresh⟩
    rcases ordered.closed current with zero | old
    · omega
    · exact fresh (last ▸ old)
  | some opened =>
    obtain ⟨last, some, fresh⟩ := ordered.opened opened current
    dsimp only
    split
    · next same => simpa [← same] using ⟨⟨last ▸ some, last⟩, fresh⟩
    · next other => simpa using fun _ same => absurd (last.trans same.symm) other

theorem Ordered.begin (ordered : h.Ordered) (reason : Reason) : (h.call (.begin reason)).Ordered := by
  refine ⟨?_, ordered.granted, fun id mem => Nat.le_succ_of_le (ordered.bound id mem), ?_, fun none => by cases none⟩
  · show h.issued ++ [h.log.lastId + 1] = List.range' 1 (h.log.lastId + 1)
    rw [ordered.issued, List.range'_1_concat, Nat.add_comm 1]
  · rintro t ⟨⟩
    exact ⟨rfl, Nat.succ_pos _, fun old => Nat.not_succ_le_self _ (ordered.bound _ old)⟩

theorem Ordered.finish (ordered : h.Ordered) (t : Transaction) : (h.call (.finish t)).Ordered := by
  have log := finish_log h.log t
  by_cases ends : (h.log.finish t).2 = true
  · obtain ⟨newest, fresh⟩ := (ordered.finish_iff t).mp ends
    obtain ⟨-, last⟩ := (ordered.newest t.id).mp newest
    rw [if_pos ends] at log
    simp only [History.call, ends, log, ↓reduceIte]
    refine ⟨ordered.issued, List.pairwise_append.mpr ⟨ordered.granted, List.pairwise_singleton _ _, ?_⟩, ?_,
      fun t none => (Option.not_mem_none t none).elim, fun _ => .inr (by simp [last])⟩
    · intro id old id' new
      obtain rfl := List.mem_singleton.mp new
      exact Nat.lt_of_le_of_ne (last ▸ ordered.bound id old) fun same => fresh (same ▸ old)
    · intro id mem
      rcases List.mem_append.mp mem with old | new
      · exact ordered.bound id old
      · rw [List.mem_singleton.mp new]
        exact Nat.le_of_eq last
  · rw [if_neg ends] at log
    simp only [History.call, ends, log, Bool.false_eq_true, ↓reduceIte]
    exact ordered

/-- A new log keeps to this order whatever is asked of it. -/
theorem of_ordered (calls : List Call) : (of calls).Ordered := by
  suffices run : ∀ h : History, h.Ordered → (calls.foldl call h).Ordered from
    run {} ⟨rfl, .nil, by simp, by simp, fun _ => .inl rfl⟩
  induction calls with
  | nil => exact fun h ordered => ordered
  | cons c rest ih =>
    intro h ordered
    cases c with
    | begin reason => exact ih _ (ordered.begin reason)
    | finish t => exact ih _ (ordered.finish t)

end History
end TransactionLog

/-! ## Readers -/

namespace PublicationFilter

/-- A filter is changed only by a number that it accepts. -/
theorem accept_filter (f : PublicationFilter) (id : Nat) :
    (f.accept id).1 = if (f.accept id).2 then ⟨some id⟩ else f := by
  rw [accept]
  split
  · split <;> rfl
  · rfl

/-- A filter, with all numbers that it has accepted, in order. -/
structure Reader where
  filter : PublicationFilter := {}
  accepted : List Nat := []
  deriving DecidableEq, Repr

namespace Reader

/-- A publication with a number reaches a reader. -/
def deliver (r : Reader) (id : Nat) : Reader :=
  ⟨(r.filter.accept id).1, if (r.filter.accept id).2 then r.accepted ++ [id] else r.accepted⟩

/-- A new reader that some publications have reached. -/
def of (ids : List Nat) : Reader := ids.foldl deliver {}

/-- The filter knows the highest number delivered, which is the last one accepted. -/
structure Follows (r : Reader) (delivered : List Nat) : Prop where
  highest : r.filter.highest = delivered.max?
  last : r.accepted.getLast? = delivered.max?
  sorted : r.accepted.Pairwise (· ≤ ·)
  subset : ∀ id ∈ r.accepted, id ∈ delivered

variable {r : Reader} {delivered : List Nat}

theorem Follows.accept_iff (follows : r.Follows delivered) (id : Nat) :
    (r.filter.accept id).2 = true ↔ ∀ d ∈ delivered, d ≤ id := by
  rw [accept, follows.highest]
  cases highest : delivered.max? with
  | none => simp [List.max?_eq_none_iff.mp highest]
  | some h =>
    obtain ⟨mem, above⟩ := List.max?_eq_some_iff.mp highest
    dsimp only
    split
    · next below => simpa using ⟨h, mem, below⟩
    · next reached => simpa using fun d old => Nat.le_trans (above d old) (Nat.not_lt.mp reached)

theorem Follows.deliver (follows : r.Follows delivered) (id : Nat) : (r.deliver id).Follows (delivered ++ [id]) := by
  have accepts := follows.accept_iff id
  have filter := accept_filter r.filter id
  by_cases accepted : (r.filter.accept id).2 = true
  · have above := accepts.mp accepted
    have highest : (delivered ++ [id]).max? = some id :=
      List.max?_eq_some_iff.mpr ⟨by simp, by simpa [or_imp, forall_and] using above⟩
    rw [if_pos accepted] at filter
    simp only [Reader.deliver, accepted, filter, ↓reduceIte]
    refine ⟨highest.symm, by simp [highest], ?_, ?_⟩
    · refine List.pairwise_append.mpr ⟨follows.sorted, List.pairwise_singleton _ _, ?_⟩
      intro d old d' new
      rw [List.mem_singleton.mp new]
      exact above d (follows.subset d old)
    · intro d mem
      rcases List.mem_append.mp mem with old | new
      · exact List.mem_append_left _ (follows.subset d old)
      · exact List.mem_append_right _ new
  · obtain ⟨d, old, below⟩ : ∃ d ∈ delivered, id < d := by simpa using accepted ∘ accepts.mpr
    obtain ⟨h, known⟩ := Option.isSome_iff_exists.mp (List.isSome_max?_of_mem old)
    obtain ⟨mem, above⟩ := List.max?_eq_some_iff.mp known
    have highest : (delivered ++ [id]).max? = delivered.max? := by
      rw [known]
      refine List.max?_eq_some_iff.mpr ⟨List.mem_append_left _ mem, ?_⟩
      have bound := above d old
      simp only [List.mem_append, List.mem_singleton, or_imp, forall_and, forall_eq]
      exact ⟨above, by omega⟩
    rw [if_neg accepted] at filter
    simp only [Reader.deliver, accepted, filter, Bool.false_eq_true, ↓reduceIte]
    exact ⟨by rw [highest, follows.highest], by rw [highest, follows.last], follows.sorted,
      fun d mem => List.mem_append_left _ (follows.subset d mem)⟩

theorem Follows.deliverAll (follows : r.Follows delivered) (ids : List Nat) :
    (ids.foldl Reader.deliver r).Follows (delivered ++ ids) := by
  induction ids generalizing r delivered with
  | nil => simpa using follows
  | cons id rest ih => simpa using ih (follows.deliver id)

theorem new_follows : ({} : Reader).Follows [] := ⟨rfl, rfl, .nil, by simp⟩

theorem of_follows (ids : List Nat) : (of ids).Follows ids := new_follows.deliverAll ids

/-- Numbers that do not fall are all accepted. -/
theorem Follows.accepts_sorted (follows : r.Follows delivered) {ids : List Nat}
    (sorted : (delivered ++ ids).Pairwise (· ≤ ·)) : (ids.foldl Reader.deliver r).accepted = r.accepted ++ ids := by
  induction ids generalizing r delivered with
  | nil => simp
  | cons id rest ih =>
    have accepts : (r.filter.accept id).2 = true :=
      (follows.accept_iff id).mpr fun d old => (List.pairwise_append.mp sorted).2.2 d old id List.mem_cons_self
    have later := ih (follows.deliver id) (by simpa using sorted)
    simpa [Reader.deliver, accepts] using later

end Reader
end PublicationFilter

open TransactionLog (History)
open PublicationFilter (Reader)

/-- Whatever is asked of a log of transactions, an end is granted just to the newest number, once, so that the numbers
that may publish rise strictly. Whatever numbers reach a reader, it accepts just those that are not below an earlier one;
what it accepts does not fall, and ends with the highest number of all. So it accepts everything that may be published,
if it comes in order. -/
theorem publications_in_order (calls : List TransactionLog.Call) (ids : List Nat) :
    (History.of calls).granted.Pairwise (· < ·) ∧
      (∀ t, ((History.of calls).log.finish t).2 = true ↔
        (History.of calls).issued.getLast? = some t.id ∧ t.id ∉ (History.of calls).granted) ∧
      (∀ id, ((Reader.of ids).filter.accept id).2 = true ↔ ¬ ∃ d ∈ ids, id < d) ∧
      (Reader.of ids).accepted.Pairwise (· ≤ ·) ∧
      (Reader.of ids).accepted.getLast? = ids.max? ∧
      (Reader.of (History.of calls).granted).accepted = (History.of calls).granted := by
  have ordered := History.of_ordered calls
  have follows := Reader.of_follows ids
  have rising : ([] ++ (History.of calls).granted).Pairwise (· ≤ ·) := ordered.granted.imp Nat.le_of_lt
  refine ⟨ordered.granted, ordered.finish_iff, fun id => ?_, follows.sorted, follows.last,
    Reader.new_follows.accepts_sorted rising⟩
  rw [follows.accept_iff]
  simp

end Frontier
