import Frontier.Proofs.Position

/-!
# Lookups in an outline

The statements of a document lie apart: each ends before the next one starts. So a condition on starts or on ends that
holds of a statement holds of all those before it, a binary search finds where it stops to hold, and every question that
a cursor asks has the answer that a look at one statement after the other gives.
-/

namespace Frontier
open Text

/-! ## Searches -/

/-- A predicate that holds on an initial part of a list, and nowhere after it. -/
def HoldsFirst {α : Type} (p : α → Bool) (xs : List α) : Prop := xs.Pairwise fun x y => p y = true → p x = true

namespace HoldsFirst
variable {α : Type} {p : α → Bool} {xs : List α}

theorem holds_iff (first : HoldsFirst p xs) {i : Nat} {x : α} (found : xs[i]? = some x) :
    p x = true ↔ i < xs.countP p := by
  induction xs generalizing i with
  | nil => simp at found
  | cons y ys ih =>
    obtain ⟨head, tail⟩ := List.pairwise_cons.mp first
    by_cases holds : p y = true
    · rw [List.countP_cons_of_pos holds]
      cases i with
      | zero =>
        obtain rfl : y = x := by simpa using found
        simpa using holds
      | succ i =>
        rw [ih tail (by simpa using found)]
        omega
    · -- Where it fails at the head, it fails everywhere.
      have none : ∀ z ∈ y :: ys, ¬ p z = true := by
        intro z mem
        rcases List.mem_cons.mp mem with rfl | later
        · exact holds
        · exact fun held => holds (head z later held)
      rw [List.countP_eq_zero.mpr none]
      simpa using none x (List.mem_of_getElem? found)

theorem partitionPoint_eq (first : HoldsFirst p xs) : partitionPoint p xs.toArray = xs.countP p := by
  apply Frontier.partitionPoint_eq
  · simpa using List.countP_le_length
  · intro i lt
    have bound : i < xs.length := Nat.lt_of_lt_of_le lt List.countP_le_length
    have found := List.getElem?_eq_getElem bound
    rw [List.getElem?_toArray, found]
    exact (first.holds_iff found).mpr lt
  · intro i ge
    rw [List.getElem?_toArray]
    cases found : xs[i]? with
    | none => rfl
    | some x =>
      have fails := (first.holds_iff found).not.mpr (Nat.not_lt.mpr ge)
      simpa using fails

theorem filter_eq (first : HoldsFirst p xs) : xs.filter p = xs.take (xs.countP p) := by
  apply filter_eq_take
  · intro i x lt found
    exact (first.holds_iff found).mpr lt
  · intro i x ge found
    simpa using (first.holds_iff found).not.mpr (Nat.not_lt.mpr ge)

theorem takeWhile_eq (first : HoldsFirst p xs) : xs.takeWhile p = xs.filter p := by
  induction xs with
  | nil => rfl
  | cons y ys ih =>
    obtain ⟨head, tail⟩ := List.pairwise_cons.mp first
    by_cases holds : p y = true
    · rw [List.takeWhile_cons_of_pos holds, List.filter_cons_of_pos holds, ih tail]
    · have none : ∀ z ∈ ys, ¬ p z = true := fun z later held => holds (head z later held)
      rw [List.takeWhile_cons_of_neg holds, List.filter_cons_of_neg holds, List.filter_eq_nil_iff.mpr none]

theorem find?_eq (first : HoldsFirst p xs) : xs.find? (fun x => !p x) = xs[xs.countP p]? := by
  rw [← List.head?_filter, filter_eq_drop (n := xs.countP p), List.head?_drop]
  · intro i x lt found
    simpa using (first.holds_iff found).mpr lt
  · intro i x ge found
    simpa using (first.holds_iff found).not.mpr (Nat.not_lt.mpr ge)

end HoldsFirst

/-- The last of rising numbers is the largest. -/
theorem getLast?_eq_max? {xs : List Nat} (rising : xs.Pairwise (· ≤ ·)) : xs.getLast? = xs.max? := by
  rcases List.eq_nil_or_concat xs with rfl | ⟨front, last, rfl⟩
  · rfl
  · rw [List.concat_eq_append] at rising ⊢
    rw [List.getLast?_concat, eq_comm, List.max?_eq_some_iff]
    refine ⟨List.mem_concat_self, ?_⟩
    intro x mem
    rcases List.mem_append.mp mem with earlier | same
    · exact (List.pairwise_append.mp rising).2.2 x earlier last (List.mem_singleton_self last)
    · exact Nat.le_of_eq (List.mem_singleton.mp same)

/-! ## Statements apart -/

namespace Statement

theorem contains_iff {s : Statement} {x : Nat} : s.contains x = true ↔ s.start ≤ x ∧ ¬ s.stop < x := by
  simp [contains]

/-- Statements in order, each of which ends before the next one starts. -/
structure Spaced (ss : List Statement) : Prop where
  solid : ∀ s ∈ ss, s.start < s.stop
  spaced : ss.Pairwise fun s t => s.stop < t.start

/-- What lets a period end a statement is a gap. -/
theorem next?_start_lt {offset : Nat} {cs left : List Char} {s : Statement} (closing : Closing cs)
    (read : next? offset none cs = some (s, left)) : offset < s.start := by
  obtain ⟨skipped, taken, hg, hb, rfl⟩ := next?_eq read
  have some : skipped ≠ [] := by
    rintro rfl
    rcases closing_cases.mp closing with rfl | ⟨c, rest, rfl, blank⟩ | ⟨rest, rfl⟩
    · have nothing : [] = taken ++ left := (Prod.mk.inj hg).2
      exact body_ne_nil hb (List.append_eq_nil_iff.mp nothing.symm).1
    · unfold gap at hg
      split at hg <;> simp_all
    · simp [gap] at hg
  have := bytes_pos some
  show offset < offset + bytes skipped
  omega

theorem start_lt_of_mem {offset : Nat} {cs : List Char} {s : Statement} (closing : Closing cs)
    (mem : s ∈ allFrom offset cs) : offset < s.start := by
  cases read : next? offset none cs with
  | none =>
    rw [allFrom_nil read] at mem
    cases mem
  | some found =>
    obtain ⟨first, left⟩ := found
    have ahead := next?_start_lt closing read
    rw [allFrom_cons read] at mem
    rcases List.mem_cons.mp mem with rfl | later
    · exact ahead
    · have := next?_start read
      have := start_of_mem later
      omega

theorem allFrom_spaced (offset : Nat) (cs : List Char) : Spaced (allFrom offset cs) := by
  fun_induction allFrom offset cs with
  | case1 => exact ⟨by simp, .nil⟩
  | case2 offset cs first left read ih =>
    constructor
    · intro s mem
      rcases List.mem_cons.mp mem with rfl | later
      · exact (next?_start read).2
      · exact ih.solid s later
    · exact .cons (fun s later => start_lt_of_mem (next?_closing read) later) ih.spaced

theorem all_spaced (script : String) : Spaced (all script) := allFrom_spaced 0 script.toList

namespace Spaced
variable {ss : List Statement} (spaced : Spaced ss)
include spaced

theorem inOrder : InOrder ss := ⟨spaced.solid, spaced.spaced.imp Nat.le_of_lt⟩

theorem holdsFirst {p : Statement → Bool}
    (earlier : ∀ s t : Statement, s.start < s.stop → s.stop < t.start → t.start < t.stop →
      p t = true → p s = true) : HoldsFirst p ss := by
  refine spaced.spaced.imp_of_mem ?_
  intro s t left right apart
  exact earlier s t (spaced.solid s left) apart (spaced.solid t right)

theorem stop_lt (x : Nat) : HoldsFirst (fun s => decide (s.stop < x)) ss := by
  apply spaced.holdsFirst
  simp only [decide_eq_true_eq]
  omega

theorem stop_le (x : Nat) : HoldsFirst (fun s => decide (s.stop ≤ x)) ss := by
  apply spaced.holdsFirst
  simp only [decide_eq_true_eq]
  omega

theorem start_lt (x : Nat) : HoldsFirst (fun s => decide (s.start < x)) ss := by
  apply spaced.holdsFirst
  simp only [decide_eq_true_eq]
  omega

theorem start_le (x : Nat) : HoldsFirst (fun s => decide (s.start ≤ x)) ss := by
  apply spaced.holdsFirst
  simp only [decide_eq_true_eq]
  omega

/-- Of the statements up to the one that contains an offset, all have begun and all but that one have ended. -/
theorem counts_inside {i x : Nat} {s : Statement} (found : ss[i]? = some s)
    (inside : s.contains x = true) : ss.countP (·.stop < x) = i ∧ ss.countP (·.start ≤ x) = i + 1 := by
  obtain ⟨bound, rfl⟩ := List.getElem?_eq_some_iff.mp found
  have apart := List.pairwise_iff_getElem.mp spaced.spaced
  have ended (j : Nat) (size : j < ss.length) : ss[j].stop < x ↔ j < ss.countP (·.stop < x) := by
    simpa using (spaced.stop_lt x).holds_iff (List.getElem?_eq_getElem size)
  have begun (j : Nat) (size : j < ss.length) : ss[j].start ≤ x ↔ j < ss.countP (·.start ≤ x) := by
    simpa using (spaced.start_le x).holds_iff (List.getElem?_eq_getElem size)
  obtain ⟨starts, stops⟩ := contains_iff.mp inside
  constructor
  · apply Nat.le_antisymm (Nat.not_lt.mp ((ended i bound).not.mp stops))
    cases i with
    | zero => exact Nat.zero_le _
    | succ j =>
      have := apart j (j + 1) (by omega) bound (by omega)
      exact (ended j (by omega)).mp (by omega)
  · apply Nat.le_antisymm _ ((begun i bound).mp starts)
    by_contra beyond
    have size : ss.countP (·.start ≤ x) ≤ ss.length := List.countP_le_length
    have := apart i (i + 1) bound (by omega) (by omega)
    have := (begun (i + 1) (by omega)).mpr (by omega)
    omega

/-- Where an offset lies in no statement, those that have begun have ended. -/
theorem counts_outside {x : Nat} (outside : ∀ s ∈ ss, s.contains x = false) :
    ss.countP (·.stop < x) = ss.countP (·.start ≤ x) := by
  apply List.countP_congr
  intro s mem
  have := spaced.solid s mem
  have := contains_iff.not.mp (Bool.eq_false_iff.mp (outside s mem))
  simp only [decide_eq_true_eq]
  omega

/-- An offset lies in one statement at most, both ends included. -/
theorem contains_unique {s t : Statement} {x : Nat} (left : s ∈ ss) (right : t ∈ ss) (inS : s.contains x = true)
    (inT : t.contains x = true) : s = t := by
  obtain ⟨i, bound, rfl⟩ := List.getElem_of_mem left
  obtain ⟨j, bound', rfl⟩ := List.getElem_of_mem right
  have apart := List.pairwise_iff_getElem.mp spaced.spaced
  simp only [contains, Bool.and_eq_true, decide_eq_true_eq] at inS inT
  rcases Nat.lt_trichotomy i j with lt | rfl | gt
  · have := apart i j bound bound' lt
    omega
  · rfl
  · have := apart j i bound' bound gt
    omega

end Spaced

/-! ## Reading from the end of a statement -/

/-- From the end of a statement on, the statements after it are read. -/
theorem allFrom_rest {offset i : Nat} {cs : List Char} {s : Statement} (found : (allFrom offset cs)[i]? = some s) :
    ∃ taken left, cs = taken ++ left ∧ s.stop = offset + bytes taken ∧
      (allFrom offset cs).drop (i + 1) = allFrom s.stop left := by
  fun_induction allFrom offset cs generalizing i with
  | case1 => simp at found
  | case2 offset cs first left read ih =>
    obtain ⟨front, rfl, stop, -⟩ := next?_split read
    cases i with
    | zero =>
      obtain rfl : first = s := by simpa using found
      exact ⟨front, left, rfl, stop, rfl⟩
    | succ i =>
      obtain ⟨taken, left', rfl, stop', rest⟩ := ih (by simpa using found)
      exact ⟨front ++ taken, left', by rw [List.append_assoc], by rw [stop', stop, bytes_append]; omega, rest⟩

theorem firstFrom_zero (script : String) : firstFrom script 0 = (all script).head? := by
  have start : splitAt 0 script.toList = ([], script.toList) := splitAt_bytes [] script.toList
  simp only [firstFrom, start, bytes_nil, next?_before 0 [].getLast?, all]
  cases read : next? 0 none script.toList with
  | none => rw [allFrom_nil read]; rfl
  | some found => rw [allFrom_cons read]; rfl

/-- From the end of a statement on, the next statement is the one after it. -/
theorem firstFrom_stop {script : String} {i : Nat} {s : Statement} (found : (all script)[i]? = some s) :
    firstFrom script s.stop = (all script)[i + 1]? := by
  obtain ⟨taken, left, split, stop, rest⟩ := allFrom_rest found
  rw [Nat.zero_add] at stop
  have cut : splitAt s.stop script.toList = (taken, left) := by rw [split, stop, splitAt_bytes]
  rw [← List.head?_drop, all, rest]
  simp only [firstFrom, cut, ← stop, next?_before s.stop taken.getLast?]
  cases read : next? s.stop none left with
  | none => rw [allFrom_nil read]; rfl
  | some next => rw [allFrom_cons read]; rfl

end Statement

/-! ## Questions to an outline -/

namespace Outline
open Statement

variable {o : Outline} {ss : List Statement} (spaced : Spaced ss) (holds : o.statements = ss.toArray)

theorem endBefore_take {k : Nat} (holds : o.statements = ss.toArray) (bound : k ≤ ss.length) :
    o.endBefore k = ((ss.take k).map (·.stop)).getLast?.getD 0 := by
  cases k with
  | zero => simp [endBefore]
  | succ k =>
    have found := List.getElem?_eq_getElem (show k < ss.length from bound)
    rw [endBefore_succ (s := ss[k]) (by rw [holds, List.getElem?_toArray, found]), List.take_add_one, found,
      List.map_append, Option.toList_some, List.map_singleton, List.getLast?_concat, Option.getD_some]

include spaced holds

theorem endBefore_mono {j k : Nat} (le : j ≤ k) (bound : k ≤ ss.length) : o.endBefore j ≤ o.endBefore k := by
  have order : InOrder o.statements.toList := holds ▸ spaced.inOrder
  have size : o.statements.size = ss.length := by rw [holds, List.size_toArray]
  exact (endBefore_le_iff order (by omega) (by omega)).mpr le

theorem countUpTo_count (x : Nat) : o.countUpTo x = ss.countP (·.stop ≤ x) := by
  rw [countUpTo, holds, (spaced.stop_le x).partitionPoint_eq]

theorem previousEnd_count (x : Nat) : o.previousEnd x = o.endBefore (ss.countP (·.stop < x)) := by
  rw [previousEnd, holds, (spaced.stop_lt x).partitionPoint_eq]

theorem next?_find (x : Nat) : o.next? x = ss.find? (x ≤ ·.start) := by
  have same := (spaced.start_lt x).find?_eq
  simp only [← decide_not, Nat.not_lt] at same
  rw [next?, holds, (spaced.start_lt x).partitionPoint_eq, same, List.getElem?_toArray]

theorem boundaryAt_inside {x : Nat} {s : Statement} (mem : s ∈ ss) (inside : s.contains x = true) :
    o.boundaryAt x = s.stop := by
  obtain ⟨i, bound, rfl⟩ := List.getElem_of_mem mem
  have found := List.getElem?_eq_getElem bound
  have index := (spaced.counts_inside found inside).1
  unfold boundaryAt
  dsimp only
  rw [holds, (spaced.stop_lt x).partitionPoint_eq, index, List.getElem?_toArray, found]
  simp only [(contains_iff.mp inside).1, ↓reduceIte]

theorem boundaryAt_outside {x : Nat} (outside : ∀ s ∈ ss, s.contains x = false) :
    o.boundaryAt x = o.previousEnd x := by
  unfold boundaryAt previousEnd
  dsimp only
  rw [holds, (spaced.stop_lt x).partitionPoint_eq, List.getElem?_toArray]
  cases found : ss[ss.countP (·.stop < x)]? with
  | none => rfl
  | some s =>
    have open' : ¬ s.stop < x := by simpa using ((spaced.stop_lt x).holds_iff found).not.mpr (Nat.lt_irrefl _)
    have := contains_iff.not.mp (Bool.eq_false_iff.mp (outside s (List.mem_of_getElem? found)))
    simp only [show ¬ s.start ≤ x from fun starts => this ⟨starts, open'⟩, ↓reduceIte]

/-- A cursor selects the end of the last statement that has begun. -/
theorem boundaryAt_count (x : Nat) : o.boundaryAt x = o.endBefore (ss.countP (·.start ≤ x)) := by
  by_cases inside : ∃ s ∈ ss, s.contains x = true
  · obtain ⟨s, mem, inside⟩ := inside
    obtain ⟨i, bound, rfl⟩ := List.getElem_of_mem mem
    have found := List.getElem?_eq_getElem bound
    rw [boundaryAt_inside spaced holds mem inside, (spaced.counts_inside found inside).2,
      endBefore_succ (by rw [holds, List.getElem?_toArray, found])]
  · have outside : ∀ s ∈ ss, s.contains x = false := by simpa using inside
    rw [boundaryAt_outside spaced holds outside, previousEnd_count spaced holds, spaced.counts_outside outside]

/-- The ends before an offset rise, so the last of them is the largest. -/
theorem previousEnd_max (x : Nat) : o.previousEnd x = ((ss.map (·.stop)).filter (· < x)).max?.getD 0 := by
  have bound : ss.countP (·.stop < x) ≤ ss.length := List.countP_le_length
  have ends : (ss.map (·.stop)).filter (· < x) = (ss.take (ss.countP (·.stop < x))).map (·.stop) := by
    rw [← (spaced.stop_lt x).filter_eq, List.filter_map]
    rfl
  have rising : (ss.map (·.stop)).Pairwise (· ≤ ·) := by
    refine List.pairwise_map.mpr (spaced.spaced.imp_of_mem ?_)
    intro s t _ mem apart
    have := spaced.solid t mem
    omega
  rw [previousEnd_count spaced holds, endBefore_take holds bound, ← ends, getLast?_eq_max? (rising.filter _)]

theorem boundaryAt_mono {c d : Nat} (le : c ≤ d) : o.boundaryAt c ≤ o.boundaryAt d := by
  have more : ss.countP (·.start ≤ c) ≤ ss.countP (·.start ≤ d) := by
    apply List.countP_mono_left
    intro s _
    simp only [decide_eq_true_eq]
    omega
  rw [boundaryAt_count spaced holds, boundaryAt_count spaced holds]
  exact endBefore_mono spaced holds more List.countP_le_length

theorem previousEnd_le_boundaryAt (x : Nat) : o.previousEnd x ≤ o.boundaryAt x := by
  have more : ss.countP (·.stop < x) ≤ ss.countP (·.start ≤ x) := by
    apply List.countP_mono_left
    intro s mem
    have := spaced.solid s mem
    simp only [decide_eq_true_eq]
    omega
  rw [previousEnd_count spaced holds, boundaryAt_count spaced holds]
  exact endBefore_mono spaced holds more List.countP_le_length

theorem boundaryAt_stop {s : Statement} (mem : s ∈ ss) : o.boundaryAt s.stop = s.stop := by
  have := spaced.solid s mem
  have inside : s.contains s.stop = true := contains_iff.mpr ⟨by omega, Nat.lt_irrefl _⟩
  exact boundaryAt_inside spaced holds mem inside

/-- A cursor selects the beginning just where no statement has begun. -/
theorem boundaryAt_eq_zero (x : Nat) : o.boundaryAt x = 0 ↔ ∀ s ∈ ss, x < s.start := by
  have none : ss.countP (·.start ≤ x) = 0 ↔ ∀ s ∈ ss, x < s.start := by simp [List.countP_eq_zero]
  rw [boundaryAt_count spaced holds, ← none]
  cases begun : ss.countP (·.start ≤ x) with
  | zero => simp
  | succ k =>
    have bound : k + 1 ≤ ss.length := begun ▸ List.countP_le_length
    have mem := List.getElem_mem (show k < ss.length from bound)
    have := spaced.solid _ mem
    rw [endBefore_succ (by rw [holds, List.getElem?_toArray, List.getElem?_eq_getElem bound])]
    omega

theorem boundaryAt_zero {x : Nat} (nothing : o.boundaryAt x = 0) : o.boundaryAt 0 = 0 := by
  have := boundaryAt_mono spaced holds (Nat.zero_le x)
  omega

theorem boundaryAt_boundaryAt (x : Nat) : o.boundaryAt (o.boundaryAt x) = o.boundaryAt x := by
  by_cases nothing : o.boundaryAt x = 0
  · rw [nothing, boundaryAt_zero spaced holds nothing]
  · -- Any other boundary is the end of a statement.
    obtain ⟨s, mem, same⟩ : ∃ s ∈ ss, o.boundaryAt x = s.stop := by
      rw [boundaryAt_count spaced holds] at nothing ⊢
      cases begun : ss.countP (·.start ≤ x) with
      | zero =>
        rw [begun] at nothing
        exact absurd (endBefore_zero o) nothing
      | succ k =>
        have bound : k + 1 ≤ ss.length := begun ▸ List.countP_le_length
        have found := List.getElem?_eq_getElem (show k < ss.length from bound)
        exact ⟨ss[k], List.mem_of_getElem? found, endBefore_succ (by rw [holds, List.getElem?_toArray, found])⟩
    rw [same, boundaryAt_stop spaced holds mem]

end Outline

/-! ## Reading one text after the other -/

namespace Outline
open Statement

/-- What is done to an outline: it reads a text in some version, or forgets what it has read. -/
inductive Deed where
  | update (script : String) (version : Int)
  | clear

def after (o : Outline) : Deed → Outline
  | .update script version => (o.update script version).1
  | .clear => o.clear

def afterAll (deeds : List Deed) : Outline := deeds.foldl after {}

/-- Texts of one length and one version are one text. -/
def Versioned (deeds : List Deed) : Prop :=
  ∀ script script' version, .update script version ∈ deeds → .update script' version ∈ deeds →
    script.utf8ByteSize = script'.utf8ByteSize → script = script'

/-- The key of an outline names a text that it has read, and the outline is that of the text. -/
def Faithful (deeds : List Deed) (o : Outline) : Prop :=
  ∀ size version, o.key = some (size, version) → ∃ script, .update script version ∈ deeds ∧
    script.utf8ByteSize = size ∧ o = outlineOf script version

theorem after_faithful {deeds : List Deed} {o : Outline} {deed : Deed} (faithful : Faithful deeds o)
    (mem : deed ∈ deeds) : Faithful deeds (o.after deed) := by
  intro size version key
  cases deed with
  | clear => cases key
  | update script version' =>
    simp only [after, update] at key ⊢
    split at key
    · next same => simpa only [same, ↓reduceIte] using faithful size version key
    · next other =>
      cases key
      exact ⟨script, mem, rfl, by simp only [other, ↓reduceIte]; rfl⟩

theorem foldl_faithful {all deeds : List Deed} {o : Outline} (faithful : Faithful all o)
    (within : ∀ d ∈ deeds, d ∈ all) : Faithful all (deeds.foldl after o) := by
  induction deeds generalizing o with
  | nil => exact faithful
  | cons deed deeds ih =>
    rw [List.foldl_cons]
    apply ih (after_faithful faithful (within deed List.mem_cons_self))
    exact fun d later => within d (List.mem_cons_of_mem deed later)

/-- The last text read is the one whose outline is kept, whether or not it was read anew. -/
theorem afterAll_update {deeds : List Deed} {script : String} {version : Int}
    (versioned : Versioned (deeds ++ [.update script version])) :
    afterAll (deeds ++ [.update script version]) = outlineOf script version := by
  have empty : Faithful (deeds ++ [.update script version]) {} := fun _ _ key => nomatch key
  have faithful := foldl_faithful empty (fun d (mem : d ∈ deeds) => List.mem_append_left _ mem)
  have last : Deed.update script version ∈ deeds ++ [.update script version] := List.mem_concat_self
  rw [afterAll, List.foldl_append, List.foldl_cons, List.foldl_nil]
  simp only [after, update]
  split
  · next same =>
    obtain ⟨script', mem, size, made⟩ := faithful _ _ same
    rw [made, versioned script' script version mem last size]
  · rfl

/-- The beginning of a text, or the end of one of its statements. -/
def IsBoundary (script : String) (x : Nat) : Prop := x = 0 ∨ ∃ s ∈ all script, x = s.stop

/-- The answers of an outline, as a look at one statement after the other gives them. -/
structure Linear (script : String) (o : Outline) : Prop where
  statements : o.statements.toList = all script
  unique : ∀ x, ∀ s ∈ all script, ∀ t ∈ all script, s.contains x = true → t.contains x = true → s = t
  inside : ∀ x, ∀ s ∈ all script, s.contains x = true → o.boundaryAt x = s.stop
  outside : ∀ x, (∀ s ∈ all script, s.contains x = false) →
    o.boundaryAt x = (((all script).map (·.stop)).filter (· < x)).max?.getD 0
  countUpTo : ∀ x, o.countUpTo x = (o.upTo x).length ∧
    o.countUpTo x = ((all script).map (·.stop)).countP (· ≤ x)
  upTo : ∀ x, o.upTo x <+: all script
  previousEnd : ∀ x, o.previousEnd x = (lastEndBefore script x).getD 0
  next : ∀ x, o.next? x = (all script).find? (x ≤ ·.start)
  nextAtBoundary : ∀ x, IsBoundary script x → o.next? x = firstFrom script x
  within : ∀ a b, a ≤ b → IsBoundary script a → IsBoundary script b →
    o.within a b = (o.upTo b).drop (o.countUpTo a)

/-- A boundary is the end of some first statements, and what is read from there is the statement after them. -/
theorem boundary_endOf {script : String} {x : Nat} (boundary : IsBoundary script x) :
    ∃ k ≤ (all script).length, x = endOf script k ∧ firstFrom script x = (all script)[k]? := by
  rcases boundary with rfl | ⟨s, mem, rfl⟩
  · refine ⟨0, Nat.zero_le _, rfl, ?_⟩
    rw [firstFrom_zero, List.head?_eq_getElem?]
  · obtain ⟨i, bound, rfl⟩ := List.getElem_of_mem mem
    have found := List.getElem?_eq_getElem bound
    exact ⟨i + 1, bound, (Engine.endOf_succ found).symm, firstFrom_stop found⟩

theorem outlineOf_linear (script : String) (version : Int) : Linear script (outlineOf script version) := by
  have spaced := all_spaced script
  have made : (outlineOf script version).statements = (all script).toArray := rfl
  have outlines := Engine.outlines_outlineOf script version
  constructor
  case statements => rw [made]
  case unique =>
    intro x s left t right
    exact spaced.contains_unique left right
  case inside =>
    intro x s mem inside
    exact boundaryAt_inside spaced made mem inside
  case outside =>
    intro x outside
    rw [boundaryAt_outside spaced made outside, previousEnd_max spaced made]
  case countUpTo =>
    intro x
    rw [countUpTo_count spaced made, Outline.upTo, made, ← List.countP_eq_length_filter, List.countP_map]
    exact ⟨rfl, rfl⟩
  case upTo =>
    intro x
    rw [upTo_eq outlines.order, made]
    exact List.take_prefix _ _
  case previousEnd =>
    intro x
    have ended := spaced.stop_lt x
    rw [previousEnd_count spaced made, endBefore_take made List.countP_le_length, lastEndBefore, ← ended.filter_eq,
      ← ended.takeWhile_eq, List.takeWhile_map]
    rfl
  case next => exact next?_find spaced made
  case nextAtBoundary =>
    intro x boundary
    obtain ⟨k, bound, rfl, first⟩ := boundary_endOf boundary
    rw [outlines.next? bound, first]
  case within =>
    intro a b le left right
    obtain ⟨j, boundJ, rfl, -⟩ := boundary_endOf left
    obtain ⟨k, boundK, rfl, -⟩ := boundary_endOf right
    have le : j ≤ k := Nat.not_lt.mp fun lt => Nat.not_lt.mpr le ((Engine.endOf_lt_iff boundK boundJ).mpr lt)
    rw [outlines.within le boundK, outlines.upTo boundK, outlines.countUpTo boundJ]

/-- Whatever texts an outline has read and forgotten before, it answers of the last one as a linear look does. -/
theorem lookups_linear {deeds : List Deed} {script : String} {version : Int}
    (versioned : Versioned (deeds ++ [.update script version])) :
    Linear script (afterAll (deeds ++ [.update script version])) := by
  rw [afterAll_update versioned]
  exact outlineOf_linear script version

theorem reread_lookups_linear :
    Versioned [.update "A. B." 1, .clear, .update "C.  D." 1, .update "A. B." 1] ∧
      Linear "A. B." (afterAll [.update "A. B." 1, .clear, .update "C.  D." 1, .update "A. B." 1]) := by
  have versioned : Versioned ([.update "A. B." 1, .clear, .update "C.  D." 1] ++ [.update "A. B." 1]) := by
    intro script script' version first second same
    simp only [List.cons_append, List.nil_append, List.mem_cons, Deed.update.injEq, reduceCtorEq, List.not_mem_nil]
      at first second
    rcases first with ⟨rfl, rfl⟩ | h | ⟨rfl, rfl⟩ | ⟨rfl, rfl⟩ | h <;>
      rcases second with ⟨rfl, -⟩ | h' | ⟨rfl, -⟩ | ⟨rfl, -⟩ | h' <;> first | rfl | contradiction
  exact ⟨versioned, lookups_linear versioned⟩

/-! ## What a cursor selects -/

/-- Cursors resolve to boundaries in their order, and a boundary resolves to itself. -/
structure Projects (script : String) (o : Outline) (c d : Nat) : Prop where
  rising : o.boundaryAt c ≤ o.boundaryAt d
  idempotent : o.boundaryAt (o.boundaryAt c) = o.boundaryAt c
  behind : o.previousEnd c ≤ o.boundaryAt c
  ends : ∀ s ∈ all script, o.boundaryAt s.stop = s.stop
  nothing : o.boundaryAt c = 0 ↔ ∀ s ∈ all script, c < s.start
  nothingFixed : o.boundaryAt c = 0 → o.boundaryAt 0 = 0

/-- Cursors resolve to boundaries, in order; the beginning is one of them just where no statement has begun. -/
theorem cursor_projects (script : String) (version : Int) {c d : Nat} (le : c ≤ d) :
    Projects script (update {} script version).1 c d where
  rising := boundaryAt_mono (all_spaced script) rfl le
  idempotent := boundaryAt_boundaryAt (all_spaced script) rfl c
  behind := previousEnd_le_boundaryAt (all_spaced script) rfl c
  ends _ mem := boundaryAt_stop (all_spaced script) rfl mem
  nothing := boundaryAt_eq_zero (all_spaced script) rfl c
  nothingFixed := boundaryAt_zero (all_spaced script) rfl

theorem cursor_in_comment_projects : 4 ≤ 9 ∧ Projects " A. (* B *) C." (update {} " A. (* B *) C." 1).1 4 9 :=
  ⟨by decide, cursor_projects " A. (* B *) C." 1 (by decide)⟩

end Outline
end Frontier
