import Frontier.Proofs.Region
import Frontier.Proofs.Replies

/-!
# Bookkeeping under any prover

The engine keeps three books: the undo log, the count of verified statements and the end of the verified region. They
agree after every operation, whatever the prover does. So two faults that the engine looks out for never occur: a log
and a count that differ, and a recovery that ends before its target.
-/

namespace Frontier

/-- Anything may be asked and answered, where the faults that the prover reports are of a kind. -/
def reporting (own : Fault → Prop) : Watch Unit where
  start := ()
  after _ _ _ := ()
  Admits _ q r :=
    match q, r with
    | .start, .error fault => own fault
    | .send _, .error fault => own fault
    | _, _ => True
  Allows _ _ := True

theorem reporting_attends (own : Fault → Prop) : (reporting own).Attends own where
  allows _ _ := trivial
  started admitted := admitted
  sent admitted := admitted
  running _ _ := rfl
  publish _ _ _ := rfl
  time _ _ := rfl
  drain _ _ := rfl
  unheard _ := rfl

/-- Any prover. -/
abbrev anyProver : Contract Unit := (reporting fun _ => True).contract

/-- Any prover that does not itself report that a recovery fell short. -/
abbrev honestProver : Contract Unit := (reporting fun fault => fault.short = false).contract

theorem lawful_anyProver (asked : List Asked) : (reporting fun _ => True).Lawful asked := by
  rintro before ⟨q, r⟩ after -
  cases q with
  | start => cases r <;> trivial
  | send text => cases r <;> trivial
  | _ => trivial

namespace Engine
variable {doc : String} {e : Engine} {k : Nat}

/-- Undoing does not find a log that differs from the count if it holds the verified statements. -/
theorem tryUndo_matched (tallied : Tallied e) (target : Nat) :
    (tryUndo target).Leads anyProver (fun _ e' _ => e'.undo.Matched) (fun _ _ _ => False) e () := by
  apply tryUndo_attended (reporting_attends fun _ => True)
  · exact tallied.matched
  · intro valid differs
    exact absurd (tallied.size valid) differs
  · intro state fault e' s' failed
    rcases failed.state with ⟨undo, -⟩ | ⟨undo, -⟩
    · rw [undo]
      exact tallied.matched
    · rw [undo]
      exact tallied.matched.invalidate rfl
  · intro state r e' s' answered _
    rw [answered.undo]
    exact tallied.matched
  · intro state r e' s' _ answered _
    apply (UndoLog.undone_records _ _ _).matched
    rw [answered.undo]
    exact tallied.matched

/-! ## One document -/

theorem all_empty : Statement.all "" = [] := Statement.allFrom_nil rfl

theorem Covers.none (covers : Covers "" k e) : k = 0 := by
  have bound := covers.bound
  rw [all_empty] at bound
  exact Nat.le_zero.mp bound

theorem outlines_empty {o : Outline} (outlines : Outlines "" o) (version : Int) :
    Outlines doc (o.update doc version).1 := by
  unfold Outline.update
  dsimp only
  split
  · next same =>
    have size := outlines.key _ _ same
    obtain rfl : doc = "" := String.utf8ByteSize_eq_zero_iff.mp size
    exact outlines
  · exact outlines_outlineOf doc version

theorem Covers.setDocument (covers : Covers doc k e) (version : Int) : Covers doc k (e.setDocument doc version) :=
  { covers with document := rfl, outlines := covers.outlines.update version }

theorem Covers.firstDocument (covers : Covers "" k e) (version : Int) : Covers doc 0 (e.setDocument doc version) where
  document := rfl
  outlines := outlines_empty covers.outlines version
  bound := Nat.zero_le _
  offset := by
    obtain rfl := covers.none
    exact covers.offset
  proved := covers.proved.trans covers.none

/-- The engine has read one document, or none so far. -/
def CoversOne (doc : String) (e : Engine) : Prop := ∃ text k, (text = doc ∨ text = "") ∧ Covers text k e

theorem CoversOne.setDocument (one : CoversOne doc e) (version : Int) : CoversOne doc (e.setDocument doc version) := by
  obtain ⟨text, k, rfl | rfl, covers⟩ := one
  · exact ⟨text, k, .inl rfl, covers.setDocument version⟩
  · exact ⟨doc, 0, .inl rfl, covers.firstDocument version⟩

theorem coversOne_keeps (doc : String) :
    (reporting fun _ => True).KeepsOn (· = doc) (fun e _ => CoversOne doc e) where
  setDocument := by
    rintro e s document version rfl one
    exact one.setDocument version
  perform := by
    rintro e s i ⟨text, k, meant, covers⟩
    refine (perform_region (reporting_attends _) covers i).mono ?_
    rintro p s' ⟨m, covers'⟩
    exact ⟨text, m, meant, covers'⟩
  shutdown := by
    rintro e s ⟨text, k, meant, covers⟩
    exact (shutdown_region (reporting_attends _) covers).mono fun e' s' covers' => ⟨text, k, meant, covers'⟩
  running one := ⟨trivial, fun _ _ => one⟩

theorem opens_coversOne (doc : String) {settings : Settings} :
    ∀ engine, Engine.ofSettings settings = .ok engine → CoversOne doc engine := by
  intro engine made
  obtain ⟨rules, -, rfl⟩ := ofSettings_ok made
  exact ⟨"", 0, .inr rfl, rfl, ⟨by rw [all_empty], fun size version same => by cases same⟩, Nat.zero_le _, rfl, rfl⟩

/-- The verified region ends with a statement of the document, and the count says how many end up to there. -/
theorem CoversOne.counts (one : CoversOne doc e) (version : Int) :
    (e.offset = 0 ∨ ∃ s ∈ Statement.all doc, e.offset = s.stop) ∧
      e.proved = (outlineOf doc version).countUpTo e.offset := by
  obtain ⟨k, bound, offset, proved⟩ : ∃ k ≤ (Statement.all doc).length, e.offset = endOf doc k ∧ e.proved = k := by
    obtain ⟨text, k, rfl | rfl, covers⟩ := one
    · exact ⟨k, covers.bound, covers.offset, covers.proved⟩
    · obtain rfl := covers.none
      exact ⟨0, Nat.zero_le _, covers.offset, covers.proved⟩
  refine ⟨?_, by rw [offset, proved, (outlines_outlineOf doc version).countUpTo bound]⟩
  rw [offset]
  exact endOf_boundary bound

theorem CoversOne.act_honest (one : CoversOne doc e) (i : Intent) :
    (act i).Leads honestProver (fun _ _ _ => True) (fun fault _ _ => fault.short = false) (e.begun i) () := by
  obtain ⟨text, k, -, covers⟩ := one
  obtain ⟨n, -, -, leads⟩ := act_arrives (s := ()) (reporting_attends _) (covers.begun i) i
  refine leads.mono (fun _ _ _ _ => trivial) ?_
  rintro fault e' s' ⟨-, reported⟩
  by_cases short : fault.short = true
  · exact reported short
  · simpa using short

end Engine

/-- The engine's books agree after every operation. In particular an attempt to undo never finds a log and a count
that differ, and while the document stays the same, no operation finds that its recovery fell short. -/
theorem books_agree {settings : Settings} {c : Course} (reached : c.Reached settings) {e : Engine}
    (settled : c.Settled e) :
    (e.undo.valid = true → e.undo.size = e.proved) ∧
      (∀ e' : Engine, e'.undo = e.undo → e'.proved = e.proved → ∀ target,
        (Engine.tryUndo target).Leads anyProver (fun _ e'' _ => e''.undo.Matched) (fun _ _ _ => False) e' ()) ∧
      ∀ doc, c.ReachedOn settings (· = doc) →
        (e.offset = 0 ∨ ∃ s ∈ Statement.all doc, e.offset = s.stop) ∧
          (∀ version, e.proved = (outlineOf doc version).countUpTo e.offset) ∧
          ∀ e' : Engine, (e' = e ∨ ∃ version, e' = e.setDocument doc version) → ∀ i,
            (Engine.act i).Leads honestProver (fun _ _ _ => True) (fun fault _ _ => fault.short = false)
              (e'.begun i) () := by
  have tallied : e.Tallied := by
    obtain ⟨desk, opened, -⟩ := id reached
    cases read : settings.rules with
    | error fault => simp [Desk.ofSettings, Engine.ofSettings, read, Except.map] at opened
    | ok rules => exact (reached.faithful read settled).toTallied
  refine ⟨tallied.size, ?_, ?_⟩
  · intro e' undo proved target
    exact Engine.tryUndo_matched ⟨by rw [undo, proved]; exact tallied.size, by rw [undo]; exact tallied.matched⟩ target
  · intro doc reachedOn
    have sound := Course.reachedOn_sound (Engine.coversOne_keeps doc) (Engine.opens_coversOne doc) reachedOn
      (lawful_anyProver c.asked)
    have one : e.CoversOne doc := sound.2.settled settled
    refine ⟨(one.counts 0).1, fun version => (one.counts version).2, ?_⟩
    rintro e' (rfl | ⟨version, rfl⟩) i
    · exact one.act_honest i
    · exact (one.setDocument version).act_honest i

/-- A process whose numbers jump. -/
def jumpingCourse : Course := sayingCourse "[7|check]>\n" "a. b." .standard

/-- One of two statements is verified, and the books agree. -/
theorem jumping_books_agree : ∃ c : Course, (c.Reached {} ∧ c.Settled c.desk.engine) ∧
    c.ReachedOn {} (· = "a. b.") ∧ c.desk.engine.undo.valid = true ∧ c.desk.engine.proved = 1 ∧
      c.desk.engine.undo.size = c.desk.engine.proved ∧
        c.desk.engine.proved = (outlineOf "a. b." 1).countUpTo c.desk.engine.offset := by
  have reachedOn : jumpingCourse.ReachedOn {} (· = "a. b.") :=
    ⟨.standard, Desk.ofSettings_default, sayingCourse_steps (· = "a. b.") rfl _⟩
  have settled : jumpingCourse.Settled jumpingCourse.desk.engine := .free (by decide +kernel)
  have valid : jumpingCourse.desk.engine.undo.valid = true := by decide +kernel
  obtain ⟨size, -, documents⟩ := books_agree reachedOn.reached settled
  obtain ⟨-, counted, -⟩ := documents _ reachedOn
  exact ⟨jumpingCourse, ⟨reachedOn.reached, settled⟩, reachedOn, valid, by decide +kernel, size valid, counted 1⟩

end Frontier
