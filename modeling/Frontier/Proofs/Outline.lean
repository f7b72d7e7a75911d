import Frontier.Outline
import Frontier.Proofs.Statement
import Mathlib.Tactic.ByContra

/-!
# The outline at the ends of statements

The verified region always ends with a statement, or is empty. At such offsets the questions that a cursor asks of an
outline have plain answers, since statements lie one after the other.
-/

namespace Frontier

theorem partitionIn_eq {α : Type} {p : α → Bool} {xs : Array α} {n : Nat}
    (below : ∀ i < n, xs[i]?.any p = true) (above : ∀ i, n ≤ i → xs[i]?.any p = false) {low high : Nat}
    (start : low ≤ n) (stop : n ≤ high) : partitionIn p xs low high = n := by
  fun_induction partitionIn p xs low high with
  | case1 low high open' middle holds ih =>
    have : middle < n := by
      by_contra beyond
      simp [above middle (by omega)] at holds
    exact ih (by omega) stop
  | case2 low high open' middle fails ih =>
    have : n ≤ middle := by
      by_contra beyond
      exact fails (below middle (by omega))
    exact ih start this
  | case3 low high closed => omega

/-- The search finds the place where a predicate stops to hold for good. -/
theorem partitionPoint_eq {α : Type} {p : α → Bool} {xs : Array α} {n : Nat} (bound : n ≤ xs.size)
    (below : ∀ i < n, xs[i]?.any p = true) (above : ∀ i, n ≤ i → xs[i]?.any p = false) : partitionPoint p xs = n :=
  partitionIn_eq below above (Nat.zero_le n) bound

theorem partitionPoint_le {α : Type} (p : α → Bool) (xs : Array α) : partitionPoint p xs ≤ xs.size := by
  have bounded : ∀ low high, low ≤ high → partitionIn p xs low high ≤ high := by
    intro low high le
    fun_induction partitionIn p xs low high with
    | case1 low high open' middle holds ih => exact ih (by omega)
    | case2 low high open' middle fails ih => exact Nat.le_trans (ih (by omega)) (by omega)
    | case3 low high closed => exact le
  exact bounded 0 xs.size (Nat.zero_le _)

/-- Right below the place that the search finds, the predicate holds, whatever the order. -/
theorem partitionPoint_holds {α : Type} {p : α → Bool} {xs : Array α} {n : Nat} (found : partitionPoint p xs = n + 1) :
    xs[n]?.any p = true := by
  have holds : ∀ low high, low ≤ partitionIn p xs low high ∧
      ∀ n, low ≤ n → partitionIn p xs low high = n + 1 → xs[n]?.any p = true := by
    intro low high
    fun_induction partitionIn p xs low high with
    | case1 low high open' middle holds ih =>
      obtain ⟨le, above⟩ := ih
      refine ⟨by omega, ?_⟩
      intro n lower same
      rcases Nat.lt_or_ge middle n with beyond | upTo
      · exact above n beyond same
      · obtain rfl : n = middle := by omega
        exact holds
    | case2 low high open' middle fails ih => exact ih
    | case3 low high closed =>
      refine ⟨Nat.le_refl _, ?_⟩
      intro n lower same
      omega
  exact (holds 0 xs.size).2 n (Nat.zero_le n) found

theorem filter_eq_take {α : Type} {p : α → Bool} {xs : List α} {n : Nat}
    (below : ∀ i x, i < n → xs[i]? = some x → p x = true) (above : ∀ i x, n ≤ i → xs[i]? = some x → p x = false) :
    xs.filter p = xs.take n := by
  conv => lhs; rw [← List.take_append_drop n xs, List.filter_append]
  have kept : (xs.take n).filter p = xs.take n := by
    apply List.filter_eq_self.mpr
    intro x mem
    obtain ⟨i, lt, rfl⟩ := List.mem_take_iff_getElem.mp mem
    exact below i _ (by omega) (List.getElem?_eq_getElem _)
  have gone : (xs.drop n).filter p = [] := by
    apply List.filter_eq_nil_iff.mpr
    intro x mem
    obtain ⟨i, lt, rfl⟩ := List.mem_drop_iff_getElem.mp mem
    simp [above (n + i) _ (by omega) (List.getElem?_eq_getElem _)]
  rw [kept, gone, List.append_nil]

theorem filter_eq_drop {α : Type} {p : α → Bool} {xs : List α} {n : Nat}
    (below : ∀ i x, i < n → xs[i]? = some x → p x = false) (above : ∀ i x, n ≤ i → xs[i]? = some x → p x = true) :
    xs.filter p = xs.drop n := by
  conv => lhs; rw [← List.take_append_drop n xs, List.filter_append]
  have gone : (xs.take n).filter p = [] := by
    apply List.filter_eq_nil_iff.mpr
    intro x mem
    obtain ⟨i, lt, rfl⟩ := List.mem_take_iff_getElem.mp mem
    simp [below i _ (by omega) (List.getElem?_eq_getElem _)]
  have kept : (xs.drop n).filter p = xs.drop n := by
    apply List.filter_eq_self.mpr
    intro x mem
    obtain ⟨i, lt, rfl⟩ := List.mem_drop_iff_getElem.mp mem
    exact above (n + i) _ (by omega) (List.getElem?_eq_getElem _)
  rw [kept, gone, List.nil_append]

namespace Outline
open Statement

variable {o : Outline}

@[simp] theorem endBefore_zero (o : Outline) : o.endBefore 0 = 0 := rfl

theorem endBefore_succ {k : Nat} {s : Statement} (found : o.statements[k]? = some s) :
    o.endBefore (k + 1) = s.stop := by
  simp [endBefore, found]

/-- In any order, the end of the last statement up to an offset does not lie behind it. -/
theorem boundaryUpTo_le (o : Outline) (offset : Nat) : o.boundaryUpTo offset ≤ offset := by
  unfold boundaryUpTo
  cases found : o.countUpTo offset with
  | zero => exact Nat.zero_le offset
  | succ n =>
    have holds := partitionPoint_holds found
    cases stmt : o.statements[n]? with
    | none => simp [stmt] at holds
    | some s =>
      rw [endBefore_succ stmt]
      simpa [stmt] using holds

variable (order : InOrder o.statements.toList)
include order

theorem endBefore_le_start {j k : Nat} {s : Statement} (le : j ≤ k) (found : o.statements[k]? = some s) :
    o.endBefore j ≤ s.start := by
  cases j with
  | zero => exact Nat.zero_le _
  | succ j =>
    obtain ⟨bound, rfl⟩ := Array.getElem?_eq_some_iff.mp found
    rw [endBefore_succ (Array.getElem?_eq_getElem (by omega))]
    have apart := List.pairwise_iff_getElem.mp order.apart j k (by simp; omega) (by simpa using bound) le
    simpa using apart

theorem start_lt_endBefore {j k : Nat} {s : Statement} (lt : j < k) (bound : k ≤ o.statements.size)
    (found : o.statements[j]? = some s) : s.start < s.stop ∧ s.stop ≤ o.endBefore k := by
  have solid : ∀ t ∈ o.statements, t.start < t.stop := fun t mem => order.solid t (Array.mem_toList_iff.mpr mem)
  refine ⟨solid s (Array.mem_of_getElem? found), ?_⟩
  obtain ⟨k, rfl⟩ : ∃ k', k = k' + 1 := ⟨k - 1, by omega⟩
  have last := Array.getElem?_eq_getElem (show k < o.statements.size by omega)
  rw [endBefore_succ last]
  rcases Nat.lt_or_ge j k with before | same
  · have := endBefore_le_start order (show j + 1 ≤ k by omega) last
    rw [endBefore_succ found] at this
    have := solid _ (Array.mem_of_getElem? last)
    omega
  · obtain rfl : j = k := by omega
    obtain rfl : s = _ := Option.some.inj (found.symm.trans last)
    exact Nat.le_refl _

theorem endBefore_lt {j k : Nat} (lt : j < k) (bound : k ≤ o.statements.size) : o.endBefore j < o.endBefore k := by
  have found := Array.getElem?_eq_getElem (show j < o.statements.size by omega)
  have := endBefore_le_start order (Nat.le_refl j) found
  have := start_lt_endBefore order lt bound found
  omega

theorem endBefore_le_iff {j k : Nat} (first : j ≤ o.statements.size) (second : k ≤ o.statements.size) :
    o.endBefore j ≤ o.endBefore k ↔ j ≤ k := by
  constructor
  · intro le
    by_contra beyond
    have := endBefore_lt order (show k < j by omega) first
    omega
  · intro le
    rcases Nat.eq_or_lt_of_le le with rfl | lt
    · exact Nat.le_refl _
    · exact Nat.le_of_lt (endBefore_lt order lt second)

theorem endBefore_lt_iff {j k : Nat} (first : j ≤ o.statements.size) (second : k ≤ o.statements.size) :
    o.endBefore j < o.endBefore k ↔ j < k := by
  have := endBefore_le_iff order second first
  omega

/-- The statement at an index ends at or before an offset between two ends just if it is one of those before. -/
theorem stop_le_iff {k offset : Nat} (bound : k ≤ o.statements.size) (reached : o.endBefore k ≤ offset)
    (short : k < o.statements.size → offset < o.endBefore (k + 1)) {i : Nat} {s : Statement}
    (found : o.statements[i]? = some s) : s.stop ≤ offset ↔ i < k := by
  obtain ⟨size, -⟩ := Array.getElem?_eq_some_iff.mp found
  constructor
  · intro le
    by_contra beyond
    have := short (by omega)
    have := (endBefore_le_iff order (show k + 1 ≤ _ by omega) (show i + 1 ≤ _ by omega)).mpr (by omega)
    rw [endBefore_succ found] at this
    omega
  · intro lt
    have := (start_lt_endBefore order lt bound found).2
    omega

theorem countUpTo_eq {k offset : Nat} (bound : k ≤ o.statements.size) (reached : o.endBefore k ≤ offset)
    (short : k < o.statements.size → offset < o.endBefore (k + 1)) : o.countUpTo offset = k := by
  apply partitionPoint_eq bound
  · intro i lt
    have found := Array.getElem?_eq_getElem (show i < o.statements.size by omega)
    rw [found]
    simpa using (stop_le_iff order bound reached short found).mpr lt
  · intro i ge
    cases found : o.statements[i]? with
    | none => rfl
    | some s =>
      have := (stop_le_iff order bound reached short found).not.mpr (by omega)
      simpa using this

theorem countUpTo_endBefore {k : Nat} (bound : k ≤ o.statements.size) : o.countUpTo (o.endBefore k) = k :=
  countUpTo_eq order bound (Nat.le_refl _) fun more => endBefore_lt order (Nat.lt_succ_self k) more

/-- Every offset lies between two ends. -/
theorem countUpTo_spec (offset : Nat) : o.countUpTo offset ≤ o.statements.size ∧
    o.endBefore (o.countUpTo offset) ≤ offset ∧
      (o.countUpTo offset < o.statements.size → offset < o.endBefore (o.countUpTo offset + 1)) := by
  have reach : ∀ n, n ≤ o.statements.size → (n < o.statements.size → offset < o.endBefore (n + 1)) →
      ∃ k ≤ o.statements.size, o.endBefore k ≤ offset ∧ (k < o.statements.size → offset < o.endBefore (k + 1)) := by
    intro n
    induction n with
    | zero => exact fun bound short => ⟨0, bound, Nat.zero_le _, short⟩
    | succ n ih =>
      intro bound short
      by_cases reached : o.endBefore (n + 1) ≤ offset
      · exact ⟨n + 1, bound, reached, short⟩
      · exact ih (by omega) fun _ => by omega
  obtain ⟨k, bound, reached, short⟩ := reach o.statements.size (Nat.le_refl _) fun more => by omega
  rw [countUpTo_eq order bound reached short]
  exact ⟨bound, reached, short⟩

theorem upTo_eq (offset : Nat) : o.upTo offset = o.statements.toList.take (o.countUpTo offset) := by
  obtain ⟨bound, reached, short⟩ := countUpTo_spec order offset
  apply filter_eq_take
  · intro i s lt found
    simpa using (stop_le_iff order bound reached short (by simpa using found)).mpr lt
  · intro i s ge found
    simpa using (stop_le_iff order bound reached short (by simpa using found)).not.mpr (by omega)

theorem upTo_endBefore {k : Nat} (bound : k ≤ o.statements.size) :
    o.upTo (o.endBefore k) = o.statements.toList.take k := by
  rw [upTo_eq order, countUpTo_endBefore order bound]

theorem within_endBefore {j k : Nat} (le : j ≤ k) (bound : k ≤ o.statements.size) :
    o.within (o.endBefore j) (o.endBefore k) = (o.statements.toList.take k).drop j := by
  have split : o.within (o.endBefore j) (o.endBefore k) =
      (o.upTo (o.endBefore k)).filter fun s => o.endBefore j ≤ s.start := by
    simp only [within, upTo, List.filter_filter]
  rw [split, upTo_endBefore order bound]
  apply filter_eq_drop
  · intro i s lt found
    have found : o.statements[i]? = some s := by
      rw [List.getElem?_take_of_lt (by omega)] at found
      simpa using found
    have := start_lt_endBefore order lt (by omega) found
    simpa using by omega
  · intro i s ge found
    have found : o.statements[i]? = some s := by
      rw [List.getElem?_take] at found
      split at found
      · simpa using found
      · cases found
    simpa using endBefore_le_start order ge found

theorem next?_endBefore {k : Nat} (bound : k ≤ o.statements.size) : o.next? (o.endBefore k) = o.statements[k]? := by
  have point : partitionPoint (·.start < o.endBefore k) o.statements = k := by
    apply partitionPoint_eq bound
    · intro i lt
      have found := Array.getElem?_eq_getElem (show i < o.statements.size by omega)
      have := start_lt_endBefore order lt bound found
      rw [found]
      simpa using by omega
    · intro i ge
      cases found : o.statements[i]? with
      | none => rfl
      | some s =>
        have := endBefore_le_start order ge found
        simpa using this
  rw [next?, point]

theorem previousEnd_endBefore {k : Nat} (bound : k ≤ o.statements.size) :
    o.previousEnd (o.endBefore k) = o.endBefore (k - 1) := by
  have point : partitionPoint (·.stop < o.endBefore k) o.statements = k - 1 := by
    apply partitionPoint_eq (by omega)
    · intro i lt
      have found := Array.getElem?_eq_getElem (show i < o.statements.size by omega)
      have := endBefore_lt order (show i + 1 < k by omega) bound
      rw [endBefore_succ found] at this
      rw [found]
      simpa using this
    · intro i ge
      cases found : o.statements[i]? with
      | none => rfl
      | some s =>
        obtain ⟨size, -⟩ := Array.getElem?_eq_some_iff.mp found
        have := (endBefore_le_iff order bound (show i + 1 ≤ _ by omega)).mpr (by omega)
        rw [endBefore_succ found] at this
        simpa using this
  rw [previousEnd, point]

omit order in
/-- A cursor selects the end of a statement, or the beginning. -/
theorem boundaryAt_endBefore (o : Outline) (cursor : Nat) :
    ∃ k ≤ o.statements.size, o.boundaryAt cursor = o.endBefore k := by
  have bound := partitionPoint_le (·.stop < cursor) o.statements
  unfold boundaryAt
  dsimp only
  split
  · next s found =>
    obtain ⟨size, -⟩ := Array.getElem?_eq_some_iff.mp found
    split
    · exact ⟨_, size, (endBefore_succ found).symm⟩
    · exact ⟨_, bound, rfl⟩
  · exact ⟨_, bound, rfl⟩

end Outline
end Frontier
