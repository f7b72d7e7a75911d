import Frontier.Proofs.Region
import Frontier.Proofs.Replies
import Frontier.Proofs.Retraction

/-!
# Edits behind the verified region

An edit that begins at the end of the verified region or behind it takes nothing back. The statements in the region
are then read in the new document as in the old one just if what now follows the region still lets a period end a
statement: that is a matter of the two bytes after it. The engine goes on with the first statement behind the region.
-/

namespace Frontier
open Text

namespace Statement

/-- What follows the first `x` bytes of a script lets a period end a statement there. -/
def ClosesAt (script : String) (x : Nat) : Prop := Closing (splitAt x script.toList).2

theorem closesAt_iff {script : String} {taken left : List Char} (split : script.toList = taken ++ left) :
    ClosesAt script (bytes taken) ↔ Closing left := by
  rw [ClosesAt, split, splitAt_bytes]

theorem closesAt_of_mem {script : String} {s : Statement} (mem : s ∈ all script) : ClosesAt script s.stop := by
  obtain ⟨taken, left, split, stop, closing⟩ := closing_of_mem mem
  rw [stop, Nat.zero_add]
  exact (closesAt_iff split).mpr closing

/-- Two bytes after a statement decide whether its period still ends it. -/
theorem closesAt_of_far {old new : String} {n : Nat} (same : SameStart n old new) {s : Statement} (mem : s ∈ all old)
    (far : s.stop + 2 ≤ n) : ClosesAt new s.stop := by
  obtain ⟨taken, left, split, stop, closing⟩ := closing_of_mem mem
  rw [Nat.zero_add] at stop
  obtain ⟨left', split', rest⟩ := same.begins.split split (by omega)
  rw [stop, closesAt_iff split']
  rcases closing_cases.mp closing with rfl | ⟨c, more, rfl, blank⟩ | ⟨more, rfl⟩
  · -- The old script ends with the statement, so that the new one has no byte more.
    have size : old.toByteArray.size = s.stop := by
      rw [stop, ← size_utf8Encode, ← String.toByteArray_ofList, ← List.append_nil taken, ← split, String.ofList_toList]
    have size' : new.toByteArray.size = bytes taken + bytes left' := by
      rw [← bytes_append, ← size_utf8Encode, ← String.toByteArray_ofList, ← split', String.ofList_toList]
    have short := congrArg ByteArray.size same
    rw [ByteArray.size_extract, ByteArray.size_extract, size, size'] at short
    have none : left' = [] := by
      by_contra some
      have := bytes_pos some
      omega
    rw [none]
    exact closing_nil
  · have small : c.utf8Size = 1 := by
      simp only [isAsciiBlank, Bool.or_eq_true, beq_iff_eq] at blank
      rcases blank with (((rfl | rfl) | rfl) | rfl) | rfl <;> rfl
    obtain ⟨more', rfl⟩ := rest [c] ⟨more, rfl⟩ (by rw [bytes_cons, bytes_nil, small]; omega)
    exact closing_cases.mpr (.inr (.inl ⟨c, more', rfl, blank⟩))
  · obtain ⟨more', rfl⟩ := rest ['(', '*'] ⟨more, rfl⟩ (by
      show 1 + (1 + 0) ≤ n - bytes taken
      omega)
    exact closing_cases.mpr (.inr (.inr ⟨more', rfl⟩))

end Statement

namespace Engine
open Statement

variable {old new : String} {k n : Nat}

/-- The first statements of a document are those of an edited one if a period can still end the last of them. -/
theorem take_edited (same : SameStart n old new) (bound : k ≤ (Statement.all old).length) (short : endOf old k ≤ n)
    (closes : endOf old k = 0 ∨ ClosesAt new (endOf old k)) :
    (Statement.all new).take k = (Statement.all old).take k := by
  have within : ∀ s ∈ (allFrom 0 old.toList).take k, s.stop ≤ 0 + n := by
    intro s mem
    rw [← Statement.all, ← endingBy_endOf bound, endingBy, List.mem_filter, decide_eq_true_eq] at mem
    omega
  rcases allFrom_begins same.begins bound within with equal | ⟨i, rfl, -, taken, left, split, ends, goes⟩
  · exact equal
  · have found := List.getElem?_eq_getElem (show i < (Statement.all old).length from bound)
    have stop := ends _ found
    rw [Nat.zero_add, ← endOf_succ found] at stop
    rcases closes with none | closes
    · have := (endOf_lt_iff (Nat.zero_le _) bound).mpr (Nat.succ_pos i)
      omega
    · rw [stop, closesAt_iff split] at closes
      exact absurd closes goes

theorem endOf_take (same : (Statement.all new).take k = (Statement.all old).take k) : endOf new k = endOf old k := by
  cases k with
  | zero => rfl
  | succ k =>
    have entry := congrArg (·[k]?) same
    simp only [List.getElem?_take_of_lt (Nat.lt_succ_self k)] at entry
    simp only [endOf, Outline.endBefore, outlineOf, List.getElem?_toArray, Nat.add_sub_cancel, entry]

theorem length_take (same : (Statement.all new).take k = (Statement.all old).take k)
    (bound : k ≤ (Statement.all old).length) : k ≤ (Statement.all new).length := by
  have lengths := congrArg List.length same
  rw [List.length_take, List.length_take, Nat.min_eq_left bound] at lengths
  omega

/-- After an edit behind them, the statements up to the end of one are the same just if a period can still end it. -/
theorem endingBy_edited_iff (same : SameStart n old new) (bound : k ≤ (Statement.all old).length)
    (short : endOf old k ≤ n) :
    endingBy new (endOf old k) = endingBy old (endOf old k) ↔ endOf old k = 0 ∨ ClosesAt new (endOf old k) := by
  constructor
  · intro equal
    cases k with
    | zero => exact .inl rfl
    | succ k =>
      have found := List.getElem?_eq_getElem (show k < (Statement.all old).length from bound)
      have kept : (Statement.all old)[k] ∈ endingBy new (endOf old (k + 1)) := by
        rw [equal, endingBy, List.mem_filter, decide_eq_true_eq, endOf_succ found]
        exact ⟨List.mem_of_getElem? found, Nat.le_refl _⟩
      rw [endOf_succ found]
      exact .inr (closesAt_of_mem ((List.mem_filter.mp kept).1))
  · intro closes
    have equal := take_edited same bound short closes
    rw [endingBy_endOf bound, ← endOf_take equal, endingBy_endOf (length_take equal bound), equal]

end Engine

/-! ## What is sent -/

/-- The commands that are sent; a live process says that it runs whenever it is asked. -/
def sending (live : Bool) : Watch (List String) where
  start := []
  after sent q _ :=
    match q with
    | .send text => sent ++ [text]
    | _ => sent
  Admits _ q r :=
    match q, r with
    | .running, running => live = true → running = true
    | _, _ => True
  Allows _ _ := True

theorem sending_attends (live : Bool) : (sending live).Attends fun _ => True where
  allows _ _ := trivial
  started _ := trivial
  sent _ := trivial
  running _ _ := rfl
  publish _ _ _ := rfl
  time _ _ := rfl
  drain _ _ := rfl
  unheard _ := rfl

namespace Engine
variable {live : Bool} {sent : List String} {new : String} {e : Engine} {k : Nat}

theorem executeSingle_sends (stmt : Statement) (e : Engine) (sent : List String) :
    (executeSingle stmt).Leads (sending live).contract
      (fun _ e' sent' => e'.offset = stmt.stop ∧ sent' = sent ++ [stmt.text])
      (fun _ _ sent' => sent' = sent ∨ sent' = sent ++ [stmt.text]) e sent := by
  simp only [executeSingle, Act.leads_bind, Act.leads_get, Act.leads_modify]
  apply (submit_attended (sending_attends live) stmt.text 1 _ sent).mono
  · rintro r e₁ sent₁ answered
    obtain ⟨x, heard, counter, -, -, -, -, rfl⟩ := answered.heard
    cases r.error with
    | some error => exact .inr rfl
    | none => exact ⟨rfl, rfl⟩
  · rintro fault e₁ sent₁ failed
    have tried : Tried (sending live) stmt.text sent sent₁ := by
      rcases failed.state with ⟨-, tried⟩ | ⟨-, sent₂, tried, rfl⟩
      · exact tried
      · exact tried
    rcases tried with same | ⟨reply, same⟩
    · exact .inl same
    · exact .inr same

/-- The next statement is sent last, and alone if the process is ready for it. -/
theorem stepForward_sends (covers : Covers new k e) {stmt : Statement} (found : (Statement.all new)[k]? = some stmt) :
    stepForward.Leads (sending live).contract
      (fun _ e' sent => e'.offset = stmt.stop ∧ sent.getLast? = some stmt.text ∧
        (live = true → e.inFlight = false → sent = [stmt.text]))
      (fun _ _ sent => live = true → e.inFlight = false → sent = [] ∨ sent = [stmt.text]) e [] := by
  have next : ∀ {e : Engine}, Covers new k e → e.outline.next? e.offset = some stmt := by
    intro e covers
    rw [covers.offset, covers.outlines.next? covers.bound, found]
  simp only [stepForward, Act.leads_bind, Act.leads_get, next covers, Option.isSome_some, ↓reduceIte]
  by_cases free : live = true ∧ e.inFlight = false
  · simp only [ensureSession, ready, Act.leads_bind, Act.leads_ask, Watch.contract_asks, Watch.contract_answers,
      Act.leads_get, Act.leads_pure]
    refine ⟨trivial, ?_⟩
    rintro running _ ⟨runs, rfl⟩
    have runs : running = true := runs free.1
    subst runs
    simp only [free.2, Bool.not_false, Bool.and_self, Bool.not_true, Bool.false_eq_true, ↓reduceIte, Act.leads_pure,
      next covers]
    refine (executeSingle_sends stmt e _).mono ?_ ?_
    · rintro _ e' sent' ⟨offset, rfl⟩
      exact ⟨offset, rfl, fun _ _ => rfl⟩
    · rintro fault e' sent' (rfl | rfl) - -
      · exact .inl rfl
      · exact .inr rfl
  · refine (ensureSession_region (sending_attends live) covers).mono ?_ ?_
    · intro _ e₁ sent₁ covers₁
      simp only [next covers₁]
      refine (executeSingle_sends stmt e₁ sent₁).mono ?_ ?_
      · rintro _ e' sent' ⟨offset, rfl⟩
        exact ⟨offset, by simp, fun runs gate => absurd ⟨runs, gate⟩ free⟩
      · intro fault e' sent' _ runs gate
        exact absurd ⟨runs, gate⟩ free
    · intro fault e' sent' _ runs gate
      exact absurd ⟨runs, gate⟩ free

end Engine

/-! ## Edits -/

namespace Desk
variable {old : String} {d : Desk} {edit : Nat}

/-- The verified region of a desk's engine ends with a statement of the document that was read last, and the count says
with which. -/
structure Bounded (old : String) (d : Desk) : Prop where
  outlines : Engine.Outlines old d.engine.outline
  boundary : d.engine.offset = 0 ∨ ∃ s ∈ Statement.all old, d.engine.offset = s.stop
  counted : d.engine.proved = d.engine.outline.countUpTo d.engine.offset

theorem Bounded.position (bounded : d.Bounded old) :
    ∃ k ≤ (Statement.all old).length, d.engine.offset = endOf old k ∧ d.engine.proved = k := by
  obtain ⟨k, bound, offset⟩ : ∃ k ≤ (Statement.all old).length, d.engine.offset = endOf old k := by
    rcases bounded.boundary with start | ⟨s, mem, stop⟩
    · exact ⟨0, Nat.zero_le _, start⟩
    · obtain ⟨i, bound, found⟩ := List.getElem_of_mem mem
      exact ⟨i + 1, bound, stop.trans (Engine.endOf_succ (List.getElem?_eq_some_iff.mpr ⟨bound, found⟩)).symm⟩
  refine ⟨k, bound, offset, ?_⟩
  rw [bounded.counted, offset, bounded.outlines.countUpTo bound]

/-- A desk whose engine covers a document. -/
theorem bounded_of_covers {new : String} {k : Nat} (covers : Engine.Covers new k d.engine) : d.Bounded new where
  outlines := covers.outlines
  boundary := by
    rw [covers.offset]
    exact Engine.endOf_boundary covers.bound
  counted := by rw [covers.offset, covers.outlines.countUpTo covers.bound, covers.proved]

/-- An edit behind the verified region begins no operation. -/
theorem call_behind (ticket : Ticket) (new : String) (version : Int) (free : d.holder = none)
    (waits : ∀ p ∈ d.inbox.edit, d.engine.offset ≤ p) (behind : d.engine.offset ≤ edit) :
    ∃ d' : Desk, d.call ticket (.update new version (some edit)) = d'.wrapUp ticket (.updated none) ∧
      d'.engine = d.engine.setDocument new version := by
  obtain ⟨edit', added, behind'⟩ : ∃ edit', (d.inbox.add new version (some edit)).edit = some edit' ∧
      d.engine.offset ≤ edit' := by
    cases pending : d.inbox.edit with
    | none => exact ⟨edit, by simp [Inbox.add, pending], behind⟩
    | some p => exact ⟨min p edit, by simp [Inbox.add, pending], Nat.le_min.mpr ⟨waits p pending, behind⟩⟩
  have outside : ¬ edit' < (d.engine.setDocument new version).offset := Nat.not_lt.mpr behind'
  have document : (d.inbox.add new version (some edit)).document = some (new, version) := rfl
  simp only [Desk.call, free, Option.isSome_none, Bool.false_eq_true, ↓reduceIte, Desk.takeDocument, document,
    Desk.drain, added, outside]
  exact ⟨_, rfl, rfl⟩

end Desk

/-- An edit behind the verified region leaves it alone just if a period can still end its last statement in the new
document, which it can whenever the edit begins at least two bytes behind the region. Then the region still ends with a
statement, the count is still right, and the engine goes on with the first statement behind it. -/
theorem edit_behind_keeps_region {old new : String} {d : Desk} {version : Int} {edit : Nat} (ticket : Ticket)
    (free : d.holder = none) (waits : ∀ p ∈ d.inbox.edit, d.engine.offset ≤ p) (bounded : d.Bounded old)
    (fresh : d.engine.outline.version ≠ some version) (same : Statement.SameStart edit old new)
    (behind : d.engine.offset ≤ edit) :
    ∃ d' : Desk, d.call ticket (.update new version (some edit)) = d'.wrapUp ticket (.updated none) ∧
      d'.engine.offset = d.engine.offset ∧
      (endingBy new d.engine.offset = endingBy old d.engine.offset ↔
        d.engine.offset = 0 ∨ Statement.ClosesAt new d.engine.offset) ∧
      (d.engine.offset + 2 ≤ edit → d.engine.offset = 0 ∨ Statement.ClosesAt new d.engine.offset) ∧
      (d.engine.offset = 0 ∨ Statement.ClosesAt new d.engine.offset → d'.Bounded new ∧
        ∀ stmt ∈ (Statement.all new).find? (fun s => d.engine.offset ≤ s.start), ∀ live,
          (Engine.act .stepForward).Leads (sending live).contract
            (fun _ e' sent => e'.offset = stmt.stop ∧ sent.getLast? = some stmt.text ∧
              (live = true → d'.engine.inFlight = false → sent = [stmt.text]))
            (fun _ _ sent => live = true → d'.engine.inFlight = false → sent = [] ∨ sent = [stmt.text])
            (d'.engine.begun .stepForward) []) := by
  obtain ⟨d', called, engine⟩ := Desk.call_behind ticket new version free waits behind
  obtain ⟨k, bound, offset, proved⟩ := bounded.position
  have short : endOf old k ≤ edit := by rwa [← offset]
  refine ⟨d', called, by rw [engine]; rfl, ?_, ?_, ?_⟩
  · rw [offset]
    exact Engine.endingBy_edited_iff same bound short
  · intro far
    rcases bounded.boundary with start | ⟨s, mem, stop⟩
    · exact .inl start
    · rw [stop] at far ⊢
      exact .inr (Statement.closesAt_of_far same mem far)
  · intro closes
    rw [offset] at closes
    have equal := Engine.take_edited same bound short closes
    have kept : endOf new k = endOf old k := Engine.endOf_take equal
    have covers : Engine.Covers new k d'.engine := by
      rw [engine]
      refine ⟨rfl, ?_, Engine.length_take equal bound, by rw [kept]; exact offset, proved⟩
      rw [show (d.engine.setDocument new version).outline = _ from Engine.update_fresh fresh new]
      exact Engine.outlines_outlineOf new version
    refine ⟨Desk.bounded_of_covers covers, ?_⟩
    intro stmt found live
    rw [offset, ← kept, Engine.find?_start covers.bound] at found
    exact Engine.stepForward_sends (covers.begun .stepForward) found

/-- A process has accepted the first of two statements. -/
def acceptingCourse : Course := sayingCourse "[1|check]>\n" "a. b." .standard

theorem acceptingCourse_reached : acceptingCourse.Reached {} := by
  have reachedOn : acceptingCourse.ReachedOn {} fun _ => True :=
    ⟨.standard, Desk.ofSettings_default, sayingCourse_steps _ trivial _⟩
  exact reachedOn.reached

theorem acceptingCourse_bounded : acceptingCourse.desk.Bounded "a. b." where
  outlines := by
    rw [show acceptingCourse.desk.engine.outline = outlineOf "a. b." 1 by decide +kernel]
    exact Engine.outlines_outlineOf "a. b." 1
  boundary := .inr ⟨⟨"a.", 0, 2⟩, by decide +kernel, by decide +kernel⟩
  counted := by decide +kernel

/-- An edit that leaves a blank behind the region. -/
theorem blank_keeps_region : ∃ c : Course, c.Reached {} ∧ c.desk.engine.offset = 2 ∧ ∃ d' : Desk,
    c.desk.call 2 (.update "a. c." 2 (some 3)) = d'.wrapUp 2 (.updated none) ∧ d'.Bounded "a. c." := by
  have offset : acceptingCourse.desk.engine.offset = 2 := by decide +kernel
  have closes : Statement.ClosesAt "a. c." acceptingCourse.desk.engine.offset := by
    rw [offset]
    exact Statement.closing_iff.mpr (by decide +kernel)
  have free : acceptingCourse.desk.holder = none := by decide +kernel
  have empty : acceptingCourse.desk.inbox.edit = none := by decide +kernel
  have fresh : acceptingCourse.desk.engine.outline.version ≠ some 2 := by decide +kernel
  have same : Statement.SameStart 3 "a. b." "a. c." := by
    rw [Statement.SameStart]
    decide +kernel
  obtain ⟨d', called, -, -, -, keeps⟩ := edit_behind_keeps_region 2 free (by simp [empty]) acceptingCourse_bounded fresh
    same (by rw [offset]; decide)
  exact ⟨_, acceptingCourse_reached, offset, d', called, (keeps (.inr closes)).1⟩

/-- A letter typed right behind a period joins its statement to the next one, and the region ends within it. -/
theorem joined_statement_leaves_region : ¬ ∀ (old new : String) (c : Course) (version : Int) (edit : Nat),
    c.Reached {} → c.desk.holder = none → c.desk.inbox.edit = none → c.desk.Bounded old →
      c.desk.engine.outline.version ≠ some version → Statement.SameStart edit old new → c.desk.engine.offset ≤ edit →
        endingBy new c.desk.engine.offset = endingBy old c.desk.engine.offset := by
  intro all
  have same : Statement.SameStart 2 "a. b." "a.b. c." := by
    rw [Statement.SameStart]
    decide +kernel
  have equal := all "a. b." "a.b. c." acceptingCourse 2 2 acceptingCourse_reached (by decide +kernel)
    (by decide +kernel) acceptingCourse_bounded (by decide +kernel) same (by decide +kernel)
  exact absurd equal (by decide +kernel)

end Frontier
