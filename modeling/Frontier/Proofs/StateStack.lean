import Frontier.Proofs.UndoLog
import Mathlib.Data.List.Basic

/-!
# The undo log as a stack of states

An undo log tells what a stack would tell that holds the state the session began in, and above it the state after each
executed statement. A statement is pushed only if it was announced and stands next, and raises the state number; an
undo cuts the stack and puts the state on top that it was answered with. Whatever else is entered, the stack fails, and
a stack that has failed stays as it is until it is begun anew.
-/

namespace Frontier

namespace UndoLog

/-- What may be entered in a log, or asked of it. -/
inductive Entry where
  | begin (initial : Nat)
  | reset
  | invalidate (reason : Disorder)
  | announce (index : Nat)
  | acknowledge (index id : Nat)
  | acknowledgeBatch (index count : Nat) (ids : List Nat)
  | undone (kept id : Nat)
  /-- Which state is to be restored? -/
  | undoTarget (executed : Nat) (target : Int)
  /-- Which state was before a statement? -/
  | stateBefore (index : Nat)

/-- What an entry is answered with. -/
inductive Reply where
  | done
  | inOrder (yes : Bool)
  | state (id : Option Nat)
  deriving DecidableEq

/-- Whether an entry begins the log anew. -/
def Entry.begins : Entry → Bool
  | .begin _ | .reset => true
  | _ => false

/-- Makes an entry. -/
def enter (l : UndoLog) : Entry → UndoLog × Reply
  | .begin initial => (startingAt initial, .done)
  | .reset => (l.reset, .done)
  | .invalidate reason => (l.invalidate reason, .done)
  | .announce index => (l.announce index, .done)
  | .acknowledge index id => ((l.acknowledge index id).1, .inOrder (l.acknowledge index id).2)
  | .acknowledgeBatch index count ids =>
    ((l.acknowledgeBatch index count ids).1, .inOrder (l.acknowledgeBatch index count ids).2)
  | .undone kept id => (l.undone kept id, .done)
  | .undoTarget executed target => (l, .state (l.undoTarget? executed target))
  | .stateBefore index => (l, .state (l.stateBefore? index))

/-- Makes entries, one after the other. -/
def enterAll (l : UndoLog) (entries : List Entry) : UndoLog := entries.foldl (fun l e => (l.enter e).1) l

end UndoLog

open UndoLog (Entry Reply)

/-- The state that a session began in, those after its statements, and the statement that is announced. -/
structure StateStack where
  initial : Nat
  states : List Nat
  nonempty : states ≠ []
  announced : Option Nat := none
  failed : Bool := false

namespace StateStack

/-- The stack of a session that begins in a state. -/
def begun (initial : Nat) : StateStack where
  initial := initial
  states := [initial]
  nonempty := List.cons_ne_nil _ _

/-- The state on top. -/
def top (s : StateStack) : Nat := s.states.getLast s.nonempty

def fail (s : StateStack) : StateStack := { s with failed := true }

/-- Puts states on top; the announcement is used up. -/
def push (s : StateStack) (ids : List Nat) : StateStack where
  initial := s.initial
  states := s.states ++ ids
  nonempty := List.append_ne_nil_of_left_ne_nil s.nonempty ids
  failed := s.failed

/-- Keeps some states, and puts one on top; the announcement is used up. -/
def cut (s : StateStack) (kept id : Nat) : StateStack where
  initial := s.initial
  states := s.states.take kept ++ [id]
  nonempty := List.append_ne_nil_of_right_ne_nil _ (List.cons_ne_nil _ _)
  failed := s.failed

/-- Statement `index` may be pushed with the state `id`. -/
def Accepts (s : StateStack) (index id : Nat) : Prop :=
  s.failed = false ∧ s.announced = some index ∧ index + 1 = s.states.length ∧ s.top < id

/-- `count` statements from `index` on may be pushed with the states `ids`. -/
def AcceptsBatch (s : StateStack) (index count : Nat) (ids : List Nat) : Prop :=
  s.failed = false ∧ ids.length = count ∧ index + 1 = s.states.length ∧ (s.top :: ids).Pairwise (· < ·)

instance (s : StateStack) (index id : Nat) : Decidable (s.Accepts index id) :=
  inferInstanceAs (Decidable (_ ∧ _))

instance (s : StateStack) (index count : Nat) (ids : List Nat) : Decidable (s.AcceptsBatch index count ids) :=
  inferInstanceAs (Decidable (_ ∧ _))

/-- The state to restore: that the session began in for a negative target, else that at the target, if it lies below
the top and below the statements that are said to be executed. -/
def undoTarget? (s : StateStack) (executed : Nat) (target : Int) : Option Nat :=
  if s.failed then none
  else if target < 0 then some s.initial
  else if target < min executed (s.states.length - 1) then s.states[target.toNat]?
  else none

/-- Makes an entry. -/
def enter (s : StateStack) : Entry → StateStack × Reply
  | .begin initial => (begun initial, .done)
  | .reset => (begun s.initial, .done)
  | .invalidate _ => (s.fail, .done)
  | .announce index => (if s.failed then s else { s with announced := some index }, .done)
  | .acknowledge index id => if s.Accepts index id then (s.push [id], .inOrder true) else (s.fail, .inOrder false)
  | .acknowledgeBatch index count ids =>
    if s.AcceptsBatch index count ids then (s.push ids, .inOrder true) else (s.fail, .inOrder false)
  | .undone kept id =>
    (if s.failed then s else if kept < s.states.length then s.cut kept id else s.fail, .done)
  | .undoTarget executed target => (s, .state (s.undoTarget? executed target))
  | .stateBefore index => (s, .state s.states.dropLast[index]?)

/-- Makes entries, one after the other. -/
def enterAll (s : StateStack) (entries : List Entry) : StateStack := entries.foldl (fun s e => (s.enter e).1) s

end StateStack

namespace UndoLog

/-- A log holds what is in a stack. While it is in order, a statement was announced in the state on top. -/
structure Holds (l : UndoLog) (s : StateStack) : Prop where
  initial : l.initial = s.initial
  before : l.before = s.states.dropLast
  current : l.current = s.top
  valid : l.valid = !s.failed
  awaited : s.failed = false → l.awaited = s.announced.map (·, s.top)

variable {l : UndoLog} {s : StateStack}

theorem Holds.size (holds : l.Holds s) : l.size + 1 = s.states.length := by
  have some := List.length_pos_of_ne_nil s.nonempty
  rw [UndoLog.size, holds.before, List.length_dropLast]
  omega

theorem startingAt_holds (initial : Nat) : (startingAt initial).Holds (.begun initial) :=
  ⟨rfl, rfl, rfl, rfl, fun _ => rfl⟩

/-- A log that is put out of order holds what is in a stack that fails. -/
theorem Holds.invalidate (holds : l.Holds s) (taken : Option (Nat × Nat)) (d : Disorder) :
    ({ l with awaited := taken }.invalidate d).Holds s.fail := by
  have broken := invalidate_valid { l with awaited := taken } d
  unfold UndoLog.invalidate at broken ⊢
  by_cases valid : UndoLog.valid { l with awaited := taken } = true
  · rw [if_pos valid] at broken ⊢
    exact ⟨holds.initial, holds.before, holds.current, broken, fun standing => by cases standing⟩
  · rw [if_neg valid] at broken ⊢
    exact ⟨holds.initial, holds.before, holds.current, broken, fun standing => by cases standing⟩

theorem Holds.fallen (holds : l.Holds s) (failed : s.failed = true) : l.Holds s.fail where
  initial := holds.initial
  before := holds.before
  current := holds.current
  valid := by rw [holds.valid, failed]; rfl
  awaited standing := by cases standing

theorem Holds.push (holds : l.Holds s) (ids : List Nat) :
    ({ l with
      awaited := none
      before := l.before ++ (s.top :: ids).dropLast
      current := (s.top :: ids).getLast (List.cons_ne_nil _ _) } : UndoLog).Holds (s.push ids) := by
  have whole : s.states ++ ids = s.states.dropLast ++ s.top :: ids := by
    conv => lhs; rw [← List.dropLast_append_getLast s.nonempty, List.append_assoc]
    rfl
  refine ⟨holds.initial, ?_, ?_, holds.valid, fun _ => rfl⟩
  · show l.before ++ (s.top :: ids).dropLast = (s.states ++ ids).dropLast
    rw [holds.before, whole, List.dropLast_append_of_ne_nil (List.cons_ne_nil _ _)]
  · show (s.top :: ids).getLast _ = (s.states ++ ids).getLast _
    simp only [whole]
    rw [List.getLast_append_of_ne_nil _ (List.cons_ne_nil _ _)]

theorem Holds.cut (holds : l.Holds s) {kept : Nat} (within : kept < s.states.length) (id : Nat) :
    ({ l with awaited := none, before := l.before.take kept, current := id } : UndoLog).Holds (s.cut kept id) := by
  refine ⟨holds.initial, ?_, ?_, holds.valid, fun _ => rfl⟩
  · show l.before.take kept = (s.states.take kept ++ [id]).dropLast
    rw [holds.before, List.dropLast_concat, List.dropLast_eq_take, List.take_take]
    congr 1
    omega
  · show id = (s.states.take kept ++ [id]).getLast _
    rw [List.getLast_concat]

theorem Holds.order (holds : l.Holds s) : l.valid = true ↔ s.failed = false := by
  rw [holds.valid, Bool.not_eq_true']

theorem Holds.acknowledge (holds : l.Holds s) (index id : Nat) :
    (l.acknowledge index id).1.Holds (s.enter (.acknowledge index id)).1 ∧
      (s.enter (.acknowledge index id)).2 = .inOrder (l.acknowledge index id).2 := by
  have size := holds.size
  by_cases failed : s.failed = true
  · have refused : ¬ s.Accepts index id := by simp [StateStack.Accepts, failed]
    have broken : l.valid = false := by simp [holds.valid, failed]
    simp only [UndoLog.acknowledge, broken, StateStack.enter, if_neg refused, Bool.not_false, ↓reduceIte, and_true]
    exact holds.fallen failed
  have standing : s.failed = false := by simpa using failed
  have valid := holds.order.mpr standing
  have awaited := holds.awaited standing
  simp only [UndoLog.acknowledge, valid, StateStack.enter, StateStack.Accepts, standing, Bool.not_true,
    Bool.false_eq_true, ↓reduceIte, true_and]
  rw [awaited]
  cases announced : s.announced with
  | none =>
    simp only [Option.map_none, reduceCtorEq, false_and, ↓reduceIte, and_true]
    exact holds.invalidate none _
  | some i =>
    simp only [Option.map_some, Option.some.injEq]
    by_cases turn : i = index
    · by_cases place : index = l.size
      · by_cases rises : s.top < id
        · simp only [turn, place, size, rises, Nat.not_le.mpr rises, ne_eq, not_true_eq_false, ↓reduceIte, and_self,
            and_true]
          exact holds.push [id]
        · simp only [turn, place, rises, Nat.not_lt.mp rises, ne_eq, not_true_eq_false, ↓reduceIte, and_false, and_true]
          exact holds.invalidate none _
      · have other : index + 1 ≠ s.states.length := by omega
        simp only [turn, place, other, ne_eq, not_true_eq_false, not_false_eq_true, ↓reduceIte, false_and, and_false,
          and_true]
        exact holds.invalidate none _
    · simp only [turn, ne_eq, not_false_eq_true, ↓reduceIte, false_and, and_true]
      exact holds.invalidate none _

/-- A run of states is climbed if it rises strictly; the log takes the states before its statements, and the last. -/
theorem climb_eq (state : Nat) (ids : List Nat) :
    if (state :: ids).Pairwise (· < ·) then
      climb state ids = .ok ((state :: ids).dropLast, (state :: ids).getLast (List.cons_ne_nil _ _))
    else ∃ reason, climb state ids = .error reason := by
  induction ids generalizing state with
  | nil => simp [climb]
  | cons id rest ih =>
    have more := ih id
    by_cases rises : state < id
    · have same : (state :: id :: rest).Pairwise (· < ·) ↔ (id :: rest).Pairwise (· < ·) := by
        refine ⟨fun all => all.of_cons, fun all => List.pairwise_cons.mpr ⟨?_, all⟩⟩
        intro other mem
        rcases List.mem_cons.mp mem with rfl | mem
        · exact rises
        · exact Nat.lt_trans rises (List.rel_of_pairwise_cons all mem)
      rw [climb, if_neg (Nat.not_le.mpr rises)]
      by_cases all : (id :: rest).Pairwise (· < ·)
      · rw [if_pos all] at more
        rw [if_pos (same.mpr all), more]
        rfl
      · rw [if_neg all] at more
        rw [if_neg (fun whole => all (same.mp whole))]
        obtain ⟨reason, fails⟩ := more
        exact ⟨reason, by rw [fails]; rfl⟩
    · have falls : ¬ (state :: id :: rest).Pairwise (· < ·) :=
        fun all => rises (List.rel_of_pairwise_cons all (List.mem_cons_self))
      rw [if_neg falls, climb, if_pos (Nat.not_lt.mp rises)]
      exact ⟨_, rfl⟩

theorem Holds.acknowledgeBatch (holds : l.Holds s) (index count : Nat) (ids : List Nat) :
    (l.acknowledgeBatch index count ids).1.Holds (s.enter (.acknowledgeBatch index count ids)).1 ∧
      (s.enter (.acknowledgeBatch index count ids)).2 = .inOrder (l.acknowledgeBatch index count ids).2 := by
  have size := holds.size
  by_cases failed : s.failed = true
  · have refused : ¬ s.AcceptsBatch index count ids := by simp [StateStack.AcceptsBatch, failed]
    have broken : l.valid = false := by simp [holds.valid, failed]
    simp only [UndoLog.acknowledgeBatch, broken, StateStack.enter, if_neg refused, Bool.not_false, ↓reduceIte, and_true]
    exact holds.fallen failed
  have standing : s.failed = false := by simpa using failed
  have valid := holds.order.mpr standing
  have climbs := climb_eq s.top ids
  simp only [UndoLog.acknowledgeBatch, valid, StateStack.enter, StateStack.AcceptsBatch, standing, Bool.not_true,
    Bool.false_eq_true, ↓reduceIte, true_and, holds.current]
  by_cases number : ids.length = count
  · by_cases place : index = l.size
    · by_cases rises : (s.top :: ids).Pairwise (· < ·)
      · rw [if_pos rises] at climbs
        simp only [number, place, size, rises, climbs, ne_eq, not_true_eq_false, ↓reduceIte, and_self, and_true]
        exact holds.push ids
      · rw [if_neg rises] at climbs
        obtain ⟨reason, fails⟩ := climbs
        simp only [number, place, rises, fails, ne_eq, not_true_eq_false, ↓reduceIte, and_false, and_true]
        rw [← holds.current]
        exact holds.invalidate none _
    · have other : index + 1 ≠ s.states.length := by omega
      simp only [number, place, other, ne_eq, not_true_eq_false, not_false_eq_true, ↓reduceIte, false_and, and_false,
        and_true]
      rw [← holds.current]
      exact holds.invalidate none _
  · simp only [number, ne_eq, not_false_eq_true, ↓reduceIte, false_and, and_true]
    rw [← holds.current]
    exact holds.invalidate none _

theorem Holds.undone (holds : l.Holds s) (kept id : Nat) :
    (l.undone kept id).Holds (s.enter (.undone kept id)).1 := by
  have size := holds.size
  by_cases failed : s.failed = true
  · have broken : l.valid = false := by simp [holds.valid, failed]
    simp only [UndoLog.undone, broken, StateStack.enter, failed, Bool.not_false, ↓reduceIte]
    exact holds
  have standing : s.failed = false := by simpa using failed
  simp only [UndoLog.undone, holds.order.mpr standing, StateStack.enter, standing, Bool.not_true, Bool.false_eq_true,
    ↓reduceIte]
  by_cases within : kept < s.states.length
  · rw [if_neg (by omega), if_pos within]
    exact holds.cut within id
  · rw [if_pos (by omega), if_neg within]
    exact holds.invalidate none _

theorem Holds.undoTarget? (holds : l.Holds s) (executed : Nat) (target : Int) :
    l.undoTarget? executed target = s.undoTarget? executed target := by
  have size := holds.size
  unfold UndoLog.undoTarget? StateStack.undoTarget?
  by_cases failed : s.failed = true
  · simp [holds.valid, failed]
  simp only [holds.valid, failed, holds.initial, Bool.not_not, Bool.false_eq_true, ↓reduceIte]
  by_cases negative : target < 0
  · rw [if_pos negative, if_pos negative]
  rw [if_neg negative, if_neg negative]
  by_cases back : target.toNat < executed
  · rw [if_pos back, holds.before, List.getElem?_dropLast]
    by_cases below : target.toNat < s.states.length - 1
    · rw [if_pos below, if_pos (by omega)]
    · rw [if_neg below, if_neg (by omega)]
  · rw [if_neg back, if_neg (by omega)]

/-- Log and stack answer an entry alike, and the log holds what is in the stack again. -/
theorem Holds.enter (holds : l.Holds s) (e : Entry) :
    (l.enter e).1.Holds (s.enter e).1 ∧ (l.enter e).2 = (s.enter e).2 := by
  cases e with
  | begin initial => exact ⟨startingAt_holds initial, rfl⟩
  | reset =>
    refine ⟨?_, rfl⟩
    rw [UndoLog.enter, UndoLog.reset, holds.initial]
    exact startingAt_holds s.initial
  | invalidate reason => exact ⟨holds.invalidate l.awaited reason, rfl⟩
  | announce index =>
    refine ⟨?_, rfl⟩
    by_cases failed : s.failed = true
    · have broken : l.valid = false := by simp [holds.valid, failed]
      simpa only [UndoLog.enter, UndoLog.announce, StateStack.enter, broken, failed, Bool.false_eq_true, ↓reduceIte]
        using holds
    · have standing : s.failed = false := by simpa using failed
      simp only [UndoLog.enter, UndoLog.announce, StateStack.enter, holds.order.mpr standing, standing,
        Bool.false_eq_true, ↓reduceIte]
      exact ⟨holds.initial, holds.before, holds.current, holds.order.mpr standing, fun _ => by rw [holds.current]; rfl⟩
  | acknowledge index id => exact ⟨(holds.acknowledge index id).1, (holds.acknowledge index id).2.symm⟩
  | acknowledgeBatch index count ids =>
    exact ⟨(holds.acknowledgeBatch index count ids).1, (holds.acknowledgeBatch index count ids).2.symm⟩
  | undone kept id => exact ⟨holds.undone kept id, rfl⟩
  | undoTarget executed target => exact ⟨holds, congrArg Reply.state (holds.undoTarget? executed target)⟩
  | stateBefore index => exact ⟨holds, by rw [UndoLog.enter, UndoLog.stateBefore?, holds.before]; rfl⟩

theorem Holds.enterAll (holds : l.Holds s) (entries : List Entry) : (l.enterAll entries).Holds (s.enterAll entries) := by
  induction entries generalizing l s with
  | nil => exact holds
  | cons e rest ih => exact ih (holds.enter e).1

/-- A log out of order takes no entry that does not begin it anew. -/
theorem enter_broken (broken : l.valid = false) {e : Entry} (goes : e.begins = false) : (l.enter e).1 = l := by
  cases e with
  | begin initial => cases goes
  | reset => cases goes
  | invalidate reason => simp [UndoLog.enter, UndoLog.invalidate, broken]
  | announce index => simp [UndoLog.enter, UndoLog.announce, broken]
  | acknowledge index id => simp [UndoLog.enter, UndoLog.acknowledge, broken]
  | acknowledgeBatch index count ids => simp [UndoLog.enter, UndoLog.acknowledgeBatch, broken]
  | undone kept id => simp [UndoLog.enter, UndoLog.undone, broken]
  | undoTarget executed target => rfl
  | stateBefore index => rfl

end UndoLog

/-- After any entries, a log holds what is in the stack that they make, and answers every further entry as the stack
does. Once out of order, it looks the same after every entry that does not begin it anew. -/
theorem log_tells_stack (initial : Nat) (entries : List Entry) :
    ((UndoLog.startingAt initial).enterAll entries).Holds ((StateStack.begun initial).enterAll entries) ∧
      (∀ e, (((UndoLog.startingAt initial).enterAll entries).enter e).2 =
        (((StateStack.begun initial).enterAll entries).enter e).2) ∧
      (((UndoLog.startingAt initial).enterAll entries).valid = false → ∀ e : Entry, e.begins = false →
        (((UndoLog.startingAt initial).enterAll entries).enter e).1.snapshot =
          ((UndoLog.startingAt initial).enterAll entries).snapshot) := by
  have holds := (UndoLog.startingAt_holds initial).enterAll entries
  refine ⟨holds, fun e => (holds.enter e).2, ?_⟩
  intro broken e goes
  rw [UndoLog.enter_broken broken goes]

/-- An undo is answered with a foreign number, which a batch then goes on from; a statement that was not announced
spoils the log, and a batch that would be in order changes nothing any more. -/
theorem spoiled_log_frozen :
    ((UndoLog.startingAt 0).enterAll [.announce 0, .acknowledge 0 3, .announce 1, .undone 0 5,
        .acknowledgeBatch 0 2 [6, 9], .acknowledge 2 10]).valid = false ∧
      ((UndoLog.startingAt 0).enterAll [.announce 0, .acknowledge 0 3, .announce 1, .undone 0 5,
        .acknowledgeBatch 0 2 [6, 9], .acknowledge 2 10]).before = [5, 6] ∧
      (((UndoLog.startingAt 0).enterAll [.announce 0, .acknowledge 0 3, .announce 1, .undone 0 5,
        .acknowledgeBatch 0 2 [6, 9], .acknowledge 2 10]).enter (.acknowledgeBatch 2 1 [10])).1.snapshot =
          ⟨9, [5, 6], false, some "statement 2 acknowledged without a captured pre-state"⟩ := by
  have broken : ((UndoLog.startingAt 0).enterAll [.announce 0, .acknowledge 0 3, .announce 1, .undone 0 5,
      .acknowledgeBatch 0 2 [6, 9], .acknowledge 2 10]).valid = false := by decide
  refine ⟨broken, by decide, ?_⟩
  rw [(log_tells_stack 0 _).2.2 broken (.acknowledgeBatch 2 1 [10]) rfl]
  decide

end Frontier
