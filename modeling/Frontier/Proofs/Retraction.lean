import Frontier.Proofs.Edited
import Frontier.Proofs.Synchrony

/-!
# Retraction after an edit

An edit in the verified region takes back the statements that it touches. The engine counts those that stay in the new
document, but one undo command restores what the process has accepted of the old one. If the process is started anew
instead, it accepts the statements of the new document.
-/

namespace Frontier
open Text Ledger

/-- The statements of a document that end up to an offset. -/
def endingBy (doc : String) (offset : Nat) : List Statement := (Statement.all doc).filter (·.stop ≤ offset)

namespace Engine

variable {doc : String} {e : Engine} {v : View} {k edit : Nat}

theorem countUpTo_outlineOf (doc : String) (version : Int) (offset : Nat) :
    (outlineOf doc version).countUpTo offset = (endingBy doc offset).length := by
  obtain ⟨bound, -, -⟩ := Outline.countUpTo_spec (inOrder doc version) offset
  have upTo : endingBy doc offset = _ := Outline.upTo_eq (inOrder doc version) offset
  rw [upTo, List.length_take, Array.length_toList, Nat.min_eq_left bound]

theorem endingBy_eq (doc : String) (offset : Nat) :
    endingBy doc offset = (Statement.all doc).take (endingBy doc offset).length := by
  have upTo : endingBy doc offset = _ := Outline.upTo_eq (inOrder doc 0) offset
  rwa [countUpTo_outlineOf] at upTo

theorem endOf_endingBy (doc : String) (offset : Nat) : endOf doc (endingBy doc offset).length ≤ offset := by
  obtain ⟨-, reached, -⟩ := Outline.countUpTo_spec (inOrder doc 0) offset
  rwa [countUpTo_outlineOf] at reached

theorem boundaryUpTo_outlineOf (doc : String) (version : Int) (offset : Nat) :
    (outlineOf doc version).boundaryUpTo offset = endOf doc (endingBy doc offset).length := by
  rw [Outline.boundaryUpTo, countUpTo_outlineOf]
  rfl

theorem endingBy_endOf {j : Nat} (bound : j ≤ (Statement.all doc).length) :
    endingBy doc (endOf doc j) = (Statement.all doc).take j :=
  Outline.upTo_endBefore (inOrder doc 0) (by rwa [size_outlineOf])

theorem Reads.edited {old : String} (reads : Reads old e) {version : Int} (fresh : e.version ≠ version) (doc : String) :
    Reads doc (e.setDocument doc version) where
  settings := reads.settings
  rules := reads.rules
  document := rfl
  outline := by
    refine update_fresh ?_ doc
    rw [reads.outline]
    simpa [Outline.version, outlineOf] using fresh

/-- All but the first `j` statements are taken back. If that was an undo, the process keeps as many statements of those
that it had accepted, and else those of the document. -/
structure Withdrawn (doc : String) (k j : Nat) (v : View) (e' : Engine) (v' : View) : Prop where
  offset : e'.offset = endOf doc j
  runs : v'.running = true
  accepted : v'.accepted = if v.rejectsUndo = true ∨ k ≤ j then textsTo doc j else v.accepted.take j

theorem retract_edited (clear : Clear doc) (reads : Reads doc e) (ready : Ready e v) (log : e.undo.Counts k)
    (proved : e.proved = k) (id : v.id = k) (small : k ≤ maxWord) (inside : edit < e.offset) :
    (retract edit).Leads contract (fun _ => Withdrawn doc k (endingBy doc edit).length v) (fun _ _ _ => True) e v := by
  have bound : (endingBy doc edit).length ≤ (Statement.all doc).length := List.length_filter_le _ _
  have boundary : e.outline.boundaryUpTo edit = endOf doc (endingBy doc edit).length := by
    rw [reads.outline, boundaryUpTo_outlineOf]
  have back : endOf doc (endingBy doc edit).length < e.offset := Nat.lt_of_le_of_lt (endOf_endingBy doc edit) inside
  have count := reads.countUpTo bound
  simp only [retract, Act.leads_bind, Act.leads_get, inside, ↓reduceIte, boundary, backwardTo, back]
  -- A recovery reads the document, so the process accepts its statements.
  have recovers : ∀ {e' : Engine} {v' : View}, Reads doc e' → v'.scripts = [] →
      (v.rejectsUndo = true ∨ k ≤ (endingBy doc edit).length) →
        (recoverTo (endOf doc (endingBy doc edit).length)).Leads contract
          (fun _ => Withdrawn doc k (endingBy doc edit).length v) (fun _ _ _ => True) e' v' := by
    intro e' v' reads' free anew
    refine (recoverTo_leads clear bound reads' free).mono ?_ (fun _ _ _ _ => trivial)
    intro _ e'' v'' at'
    exact { offset := at'.offset, runs := at'.runs, accepted := by rw [if_pos anew, at'.accepted] }
  rcases Nat.lt_or_ge (endingBy doc edit).length k with lt | ge
  · by_cases refused : v.rejectsUndo = true
    · refine (tryUndo_refused ready log proved (by omega) id small refused).mono ?_ (fun _ _ _ absurd => absurd.elim)
      rintro done _ _ ⟨rfl, r, some, rfl, rfl⟩
      simp only [Bool.not_false, ↓reduceIte]
      exact recovers ⟨reads.settings, reads.rules, reads.document, reads.outline⟩ ready.free (.inl refused)
    · refine (tryUndo_granted ready log proved (by omega) id small (by simpa using refused)).mono ?_
        (fun _ _ _ absurd => absurd.elim)
      rintro done _ _ ⟨rfl, r, some, rfl, rfl⟩
      simp only [Bool.not_true, Bool.false_eq_true, ↓reduceIte, Act.leads_pure, count]
      exact { offset := rfl, runs := ready.runs,
              accepted := by rw [if_neg (by simp [refused, Nat.not_le.mpr lt])]; rfl }
  · refine (tryUndo_beyond ready log proved (by omega)).mono ?_ (fun _ _ _ absurd => absurd.elim)
    rintro done _ _ ⟨rfl, rfl, rfl⟩
    simp only [Bool.not_false, ↓reduceIte]
    exact recovers reads ready.free (.inr ge)

end Engine

namespace Bench

variable {old new : String} {b : Bench Ledger} {k edit : Nat}

/-- A retraction finds a way back that is good for both documents. -/
def Retraceable (old new : String) (edit : Nat) (b : Bench Ledger) : Prop :=
  b.world.prover.echo.rejectsUndo = true ∨ b.desk.engine.proved ≤ (endingBy new edit).length ∨
    ∀ s ∈ (endingBy new edit).getLast?, ∃ t ∈ Statement.all old, t.stop = s.stop

/-- The bench after an edit. -/
def edited (b : Bench Ledger) (document : String) (version : Int) (edit : Nat) : Bench Ledger :=
  (b.step (.call (.update document version (some edit))) []).1

theorem edit_withdraws {version : Int} (clear : Clear old) (clear' : Clear new) (idle : b.Idle)
    (at' : b.desk.engine.At old k (view b.world.prover)) (fresh : b.desk.engine.version ≠ version)
    (inside : edit < b.desk.engine.offset) :
    ∃ o, (b.step (.call (.update new version (some edit))) []).2.1 = some (.updated (some o)) ∧
      (o.success = true → Engine.Withdrawn new k (endingBy new edit).length (view b.world.prover)
        (b.edited new version edit).desk.engine (view (b.edited new version edit).world.prover)) := by
  have small : k ≤ maxWord := Nat.le_trans at'.bound clear.few
  have read := at'.toReads.edited fresh new
  have reads : Engine.Reads new ((b.desk.engine.setDocument new version).begun (.retract edit)) :=
    { read with outline := (read.begun _).trans read.outline }
  have ready : Engine.Ready ((b.desk.engine.setDocument new version).begun (.retract edit)) (view b.world.prover) :=
    { at'.toReady with }
  have retracts := Engine.retract_edited clear' reads ready at'.log at'.proved at'.id small inside
  obtain ⟨o, answered, -, holds⟩ := step_edit idle inside (Engine.performing_leads (World.contract_quiet view)
    (.retract edit) (fun o e v => o.success = true →
      Engine.Withdrawn new k (endingBy new edit).length (view b.world.prover) e v)
    (retracts.mono (fun _ _ _ withdrawn _ => { withdrawn with }) fun _ _ _ _ absurd => by cases absurd))
  exact ⟨o, answered, holds⟩

/-- The texts that are left are those of the new document just if the way back is good for both. -/
theorem withdrawn_iff {e : Engine} {v v' : View}
    (accepted : v.accepted = textsTo old k) (same : Statement.SameStart edit old new)
    (withdrawn : Engine.Withdrawn new k (endingBy new edit).length v e v') :
    v'.accepted = (endingBy new e.offset).map (·.text) ↔
      v.rejectsUndo = true ∨ k ≤ (endingBy new edit).length ∨
        ∀ s ∈ (endingBy new edit).getLast?, ∃ t ∈ Statement.all old, t.stop = s.stop := by
  have kept := Engine.endingBy_eq new edit
  have few : (endingBy new edit).length ≤ (Statement.all new).length := List.length_filter_le _ _
  rw [withdrawn.offset, Engine.endingBy_endOf few, withdrawn.accepted, ← or_assoc]
  by_cases anew : v.rejectsUndo = true ∨ k ≤ (endingBy new edit).length
  · simp only [anew, ↓reduceIte, true_or, iff_true]
    rfl
  · have lt : (endingBy new edit).length < k := by
      by_contra beyond
      exact anew (.inr (by omega))
    simp only [anew, ↓reduceIte, false_or]
    have short : ∀ s ∈ (Statement.all new).take (endingBy new edit).length, s.stop ≤ edit := by
      rw [← kept]
      intro s mem
      simpa using (List.mem_filter.mp mem).2
    have texts := Statement.same_texts_iff same.symm few short
    rw [accepted, Engine.take_textsTo (Nat.le_of_lt lt), textsTo, texts, ← kept]

end Bench

/-- After an edit in the verified region the process has accepted just what the engine holds for verified of the new
document, if and only if the way back was good for both documents. -/
theorem retraction_in_step_iff {old new : String} (clear : Clear old) (clear' : Clear new) {version version' : Int}
    {b : Bench Ledger} (reached : b.Reached old version) (runs : b.world.prover.echo.running = true)
    (fresh : b.desk.engine.version ≠ version') {edit : Nat} (inside : edit < b.desk.engine.offset)
    (same : Statement.SameStart edit old new) :
    ∃ o, (b.step (.call (.update new version' (some edit))) []).2.1 = some (.updated (some o)) ∧
      (o.success = true → (b.edited new version' edit).world.prover.echo.running = true ∧
        ((b.edited new version' edit).world.prover.accepted =
            ((b.edited new version' edit).verified new).map (·.text) ↔ b.Retraceable old new edit)) := by
  obtain ⟨k, idle, at' | away⟩ := reached.rests clear
  · obtain ⟨o, answered, holds⟩ := Bench.edit_withdraws clear clear' idle at' fresh inside
    refine ⟨o, answered, fun succeeds => ?_⟩
    have withdrawn := holds succeeds
    refine ⟨withdrawn.runs, ?_⟩
    rw [Bench.Retraceable, at'.proved]
    exact Bench.withdrawn_iff at'.accepted same withdrawn
  · have dead : b.world.prover.echo.running = false := away.dead
    simp [dead] at runs

theorem qualified_document_clear : Clear "a.b. c." where
  noUndo := by decide +kernel
  plain := by decide +kernel
  fits := by decide +kernel

theorem split_document_clear : Clear "a. b. c." where
  noUndo := by decide +kernel
  plain := by decide +kernel
  fits := by decide +kernel

/-- A blank after a period in a name ends a statement that the process has not accepted; it keeps the old one. -/
theorem split_name_not_in_step : ∃ b : Bench Ledger, b.Reached "a.b. c." 1 ∧ ¬ b.Retraceable "a.b. c." "a. b. c." 2 ∧
    (b.edited "a. b. c." 2 2).world.prover.accepted = ["a.b."] ∧
      ((b.edited "a. b. c." 2 2).verified "a. b. c.").map (·.text) = ["a."] ∧
        ∃ o, (b.step (.call (.update "a. b. c." 2 (some 2))) []).2.1 = some (.updated (some o)) ∧
          (o.success = true → (b.edited "a. b. c." 2 2).world.prover.echo.running = true ∧
            ((b.edited "a. b. c." 2 2).world.prover.accepted =
                ((b.edited "a. b. c." 2 2).verified "a. b. c.").map (·.text) ↔
              b.Retraceable "a.b. c." "a. b. c." 2)) := by
  have reached : ((Bench.opened .standard "a.b. c." 1).play [.intent (.goToCursor 7)]).Reached "a.b. c." 1 :=
    ⟨.standard, _, Desk.ofSettings_default, rfl⟩
  refine ⟨_, reached, ?_, by decide +kernel, by decide +kernel,
    retraction_in_step_iff qualified_document_clear split_document_clear reached (by decide +kernel) (by decide +kernel)
      (by decide +kernel) (by rw [Statement.SameStart]; decide +kernel)⟩
  rintro (refuses | few | shared)
  · exact absurd refuses (by decide +kernel)
  · exact absurd few (by decide +kernel)
  · obtain ⟨t, mem, stop⟩ := shared ⟨"a.", 0, 2⟩ (by decide +kernel)
    exact absurd stop ((show ∀ t ∈ Statement.all "a.b. c.", t.stop ≠ 2 by decide +kernel) t mem)

end Frontier
