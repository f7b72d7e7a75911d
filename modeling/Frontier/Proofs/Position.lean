import Frontier.Proofs.Outline
import Frontier.Proofs.Submission

/-!
# Positions in a document

The engine holds that some number of statements of a document are verified, and an echo prover that runs has accepted
just these. Where a command is taken back or given up in between, the prover may be ahead of the engine.
-/

namespace Frontier
open Text Ledger

/-! ## The undo log -/

namespace UndoLog

/-- A log that has counted one state after the other. -/
structure Counts (l : UndoLog) (k : Nat) : Prop where
  order : l.disorder = none
  current : l.current = k
  before : l.before = List.range k

theorem Counts.size {l : UndoLog} {k : Nat} (counts : l.Counts k) : l.size = k := by
  rw [UndoLog.size, counts.before, List.length_range]

theorem Counts.valid {l : UndoLog} {k : Nat} (counts : l.Counts k) : l.valid = true := by
  rw [UndoLog.valid, counts.order, Option.isNone_none]

theorem Counts.announce {l : UndoLog} {k : Nat} (counts : l.Counts k) (index : Nat) : (l.announce index).Counts k := by
  rw [UndoLog.announce, if_pos counts.valid]
  exact ⟨counts.order, counts.current, counts.before⟩

theorem Counts.acknowledge {l : UndoLog} {k : Nat} (counts : l.Counts k) :
    ((l.announce k).acknowledge k (k + 1)).1.Counts (k + 1) := by
  have valid := counts.valid
  have announced : l.announce k = { l with awaited := some (k, k) } := by
    rw [UndoLog.announce, if_pos valid, counts.current]
  have size : ({ l with awaited := some (k, k) } : UndoLog).size = k := counts.size
  rw [announced]
  simp only [UndoLog.acknowledge]
  rw [show ({ l with awaited := some (k, k) } : UndoLog).valid = true from valid]
  simp only [Bool.not_true, Bool.false_eq_true, ↓reduceIte, ne_eq, not_true_eq_false, size, Nat.not_succ_le_self]
  exact ⟨counts.order, rfl, by rw [counts.before, ← List.range_succ]⟩

theorem climb_range' (k n : Nat) : climb k (List.range' (k + 1) n) = .ok (List.range' k n, k + n) := by
  induction n generalizing k with
  | zero => rfl
  | succ n ih =>
    rw [List.range'_succ, climb, if_neg (by omega), ih]
    simp only [Except.map, List.range'_succ, Nat.add_assoc, Nat.add_comm 1]

theorem Counts.acknowledgeBatch {l : UndoLog} {k : Nat} (counts : l.Counts k) (n : Nat) :
    (l.acknowledgeBatch k n (List.range' (k + 1) n)).1.Counts (k + n) := by
  simp only [UndoLog.acknowledgeBatch, counts.valid, counts.size, counts.current, climb_range', List.length_range',
    Bool.not_true, Bool.false_eq_true, ↓reduceIte, ne_eq, not_true_eq_false]
  refine ⟨counts.order, rfl, ?_⟩
  show l.before ++ List.range' k n = List.range (k + n)
  rw [counts.before, List.range_eq_range', List.range_eq_range', ← List.range'_append_1, Nat.zero_add]

theorem Counts.undone {l : UndoLog} {k j : Nat} (counts : l.Counts k) (le : j ≤ k) : (l.undone j j).Counts j := by
  simp only [UndoLog.undone, counts.valid, counts.size, Nat.not_lt.mpr le, Bool.not_true, Bool.false_eq_true, ↓reduceIte]
  refine ⟨counts.order, rfl, ?_⟩
  show l.before.take j = List.range j
  rw [counts.before, List.take_range, Nat.min_eq_left le]

theorem Counts.invalidate {l : UndoLog} {k : Nat} (counts : l.Counts k) (d : Disorder) :
    (l.invalidate d).disorder = some d ∧ (l.invalidate d).current = k ∧ (l.invalidate d).before = List.range k := by
  rw [UndoLog.invalidate, if_pos counts.valid]
  exact ⟨rfl, counts.current, counts.before⟩

theorem Counts.undoTarget? {l : UndoLog} {k j : Nat} (counts : l.Counts k) (lt : j < k) :
    l.undoTarget? k (j : Int) = some j := by
  have positive : ¬ ((j : Int) < 0) := by omega
  simp only [UndoLog.undoTarget?, counts.valid, counts.before, positive, Int.toNat_natCast, lt, Bool.not_true,
    Bool.false_eq_true, ↓reduceIte]
  simp [lt]

theorem startingAt_counts : (startingAt 0).Counts 0 := ⟨rfl, rfl, rfl⟩

end UndoLog

/-! ## Positions in a document -/

/-- A document that fits in memory and whose statements the echo prover takes for statements. -/
structure Clear (doc : String) : Prop where
  noUndo : ∀ s ∈ Statement.all doc, Echo.undoTarget? s.text = none
  plain : ∀ s ∈ Statement.all doc, '[' ∉ s.text.toList
  fits : doc.utf8ByteSize ≤ maxWord

/-- The states of the prover can be numbered. -/
theorem Clear.few {doc : String} (clear : Clear doc) : (Statement.all doc).length ≤ maxWord :=
  Nat.le_trans (Statement.length_all_le doc) clear.fits

/-- The outline of a document. -/
def outlineOf (doc : String) (version : Int) : Outline :=
  ⟨(Statement.all doc).toArray, some (doc.utf8ByteSize, version)⟩

/-- The end of the first `k` statements of a document. -/
def endOf (doc : String) (k : Nat) : Nat := (outlineOf doc 0).endBefore k

/-- The texts of the first `k` statements of a document. -/
def textsTo (doc : String) (k : Nat) : List String := ((Statement.all doc).take k).map (·.text)

/-- The first `k` statements of a document are accepted. -/
def SoundTo (doc : String) (k : Nat) : Prop := ∀ t ∈ textsTo doc k, Echo.sound t = true

namespace Engine

/-- The engine has the default settings and has read the document. -/
structure Reads (doc : String) (e : Engine) : Prop where
  settings : e.settings = {}
  rules : e.rules = Rules.standard
  document : e.document = doc
  outline : e.outline = outlineOf doc e.version

/-- The engine holds the first `k` statements for verified, and the process has accepted the first `m`. -/
structure Holds (doc : String) (k m : Nat) (e : Engine) (v : View) : Prop extends Reads doc e, Ready e v where
  le : k ≤ m
  bound : m ≤ (Statement.all doc).length
  sound : SoundTo doc m
  offset : e.offset = endOf doc k
  proved : e.proved = k
  log : e.undo.Counts k
  id : v.id = m
  accepted : v.accepted = textsTo doc m

/-- The process has accepted what the engine holds for verified. -/
abbrev At (doc : String) (k : Nat) : Engine → View → Prop := Holds doc k k

/-- The engine holds the first `k` statements for verified, and no process runs. -/
structure Away (doc : String) (k : Nat) (e : Engine) (v : View) : Prop extends Reads doc e where
  bound : k ≤ (Statement.all doc).length
  sound : SoundTo doc k
  offset : e.offset = endOf doc k
  proved : e.proved = k
  dead : v.running = false
  free : v.scripts = []

/-- How a process dies of a statement. -/
def death : Fault := .exited (some 139)

/-- The process has died of the statement after the first `k`. -/
structure Fallen (doc : String) (k : Nat) (e : Engine) (v : View) : Prop extends Away doc k e v where
  disorder : e.undo.disorder = some (.positionLost death.message)
  current : e.undo.current = k
  before : e.undo.before = List.range k

/-- A motion has stopped in front of a statement. -/
inductive Stopped (doc : String) (k : Nat) (s : Statement) : Fault → Engine → View → Prop
  | crashes {e : Engine} {v : View} (dies : Echo.crashes s.text = true) (fallen : Fallen doc k e v) (id : v.id = k) :
    Stopped doc k s death e v
  | fails {e : Engine} {v : View} (lives : Echo.crashes s.text = false) (bad : Echo.fails s.text = true)
    (holds : At doc k e v) : Stopped doc k s (.rejected (Echo.rejection s.text)) e v

/-- A motion has stopped before it reached the end of the first `n` statements. -/
def StoppedBefore (doc : String) (n : Nat) (fault : Fault) (e : Engine) (v : View) : Prop :=
  ∃ k < n, ∃ s, (Statement.all doc)[k]? = some s ∧ Stopped doc k s fault e v

/-! ## The outline of the document -/

theorem inOrder (doc : String) (version : Int) : Statement.InOrder (outlineOf doc version).statements.toList :=
  Statement.all_inOrder doc

theorem size_outlineOf (doc : String) (version : Int) :
    (outlineOf doc version).statements.size = (Statement.all doc).length := List.size_toArray

theorem endOf_lt_iff {doc : String} {j k : Nat} (first : j ≤ (Statement.all doc).length)
    (second : k ≤ (Statement.all doc).length) : endOf doc j < endOf doc k ↔ j < k :=
  Outline.endBefore_lt_iff (inOrder doc 0) (by rwa [size_outlineOf]) (by rwa [size_outlineOf])

theorem endOf_le {doc : String} {j k : Nat} (le : j ≤ k) (bound : k ≤ (Statement.all doc).length) :
    endOf doc j ≤ endOf doc k :=
  (Outline.endBefore_le_iff (inOrder doc 0) (by rw [size_outlineOf]; omega) (by rwa [size_outlineOf])).mpr le

theorem endOf_succ {doc : String} {k : Nat} {s : Statement} (found : (Statement.all doc)[k]? = some s) :
    endOf doc (k + 1) = s.stop :=
  Outline.endBefore_succ (by simpa [outlineOf] using found)

/-- The end of some first statements is the beginning of the document, or the end of a statement. -/
theorem endOf_boundary {doc : String} {k : Nat} (bound : k ≤ (Statement.all doc).length) :
    endOf doc k = 0 ∨ ∃ s ∈ Statement.all doc, endOf doc k = s.stop := by
  cases k with
  | zero => exact .inl rfl
  | succ k =>
    have found := List.getElem?_eq_getElem (show k < (Statement.all doc).length from bound)
    exact .inr ⟨_, List.mem_of_getElem? found, endOf_succ found⟩

/-- A new version of a document is read at once. -/
theorem update_fresh {o : Outline} {version : Int} (fresh : o.version ≠ some version) (doc : String) :
    (o.update doc version).1 = outlineOf doc version := by
  have other : ¬ o.key = some (doc.utf8ByteSize, version) := by
    intro key
    exact fresh (by simp [Outline.version, key])
  simp only [Outline.update, other, ↓reduceIte]
  rfl

/-- An outline that was made of the document, in whichever version. -/
structure Outlines (doc : String) (o : Outline) : Prop where
  statements : o.statements = (Statement.all doc).toArray
  key : ∀ size version, o.key = some (size, version) → size = doc.utf8ByteSize

theorem outlines_outlineOf (doc : String) (version : Int) : Outlines doc (outlineOf doc version) where
  statements := rfl
  key _ _ same := by cases same; rfl

namespace Outlines
variable {doc : String} {o : Outline} (outlines : Outlines doc o)
include outlines

theorem order : Statement.InOrder o.statements.toList := by
  rw [outlines.statements]
  exact Statement.all_inOrder doc

theorem size : o.statements.size = (Statement.all doc).length := by
  rw [outlines.statements, List.size_toArray]

theorem endBefore (k : Nat) : o.endBefore k = endOf doc k := by
  rw [endOf, Outline.endBefore, Outline.endBefore, outlines.statements]
  rfl

theorem upTo {k : Nat} (bound : k ≤ (Statement.all doc).length) : o.upTo (endOf doc k) = (Statement.all doc).take k := by
  rw [← outlines.endBefore, Outline.upTo_endBefore outlines.order (by rwa [outlines.size]), outlines.statements]

theorem countUpTo {k : Nat} (bound : k ≤ (Statement.all doc).length) : o.countUpTo (endOf doc k) = k := by
  rw [← outlines.endBefore, Outline.countUpTo_endBefore outlines.order (by rwa [outlines.size])]

theorem next? {k : Nat} (bound : k ≤ (Statement.all doc).length) : o.next? (endOf doc k) = (Statement.all doc)[k]? := by
  rw [← outlines.endBefore, Outline.next?_endBefore outlines.order (by rwa [outlines.size]), outlines.statements,
    List.getElem?_toArray]

theorem within {j k : Nat} (le : j ≤ k) (bound : k ≤ (Statement.all doc).length) :
    o.within (endOf doc j) (endOf doc k) = ((Statement.all doc).take k).drop j := by
  rw [← outlines.endBefore, ← outlines.endBefore,
    Outline.within_endBefore outlines.order le (by rwa [outlines.size]), outlines.statements]

theorem previousEnd {k : Nat} (bound : k ≤ (Statement.all doc).length) :
    o.previousEnd (endOf doc k) = endOf doc (k - 1) := by
  rw [← outlines.endBefore, ← outlines.endBefore,
    Outline.previousEnd_endBefore outlines.order (by rwa [outlines.size])]

theorem boundaryAt (cursor : Nat) : ∃ k ≤ (Statement.all doc).length, o.boundaryAt cursor = endOf doc k := by
  obtain ⟨k, bound, same⟩ := Outline.boundaryAt_endBefore o cursor
  exact ⟨k, by rwa [outlines.size] at bound, same.trans (outlines.endBefore k)⟩

theorem boundaryUpTo (offset : Nat) :
    ∃ k ≤ (Statement.all doc).length, o.boundaryUpTo offset = endOf doc k ∧ endOf doc k ≤ offset := by
  obtain ⟨bound, reached, -⟩ := Outline.countUpTo_spec outlines.order offset
  rw [outlines.size] at bound
  rw [outlines.endBefore] at reached
  exact ⟨_, bound, outlines.endBefore _, reached⟩

/-- The document is not read anew to another end. -/
theorem update (version : Int) : Outlines doc (o.update doc version).1 := by
  unfold Outline.update
  dsimp only
  split
  · exact outlines
  · exact outlines_outlineOf doc version

end Outlines

section
variable {doc : String} {e : Engine} (reads : Reads doc e)
include reads

theorem Reads.outlines : Outlines doc e.outline := by
  rw [reads.outline]
  exact outlines_outlineOf doc e.version

theorem Reads.upTo {k : Nat} (bound : k ≤ (Statement.all doc).length) :
    e.outline.upTo (endOf doc k) = (Statement.all doc).take k := reads.outlines.upTo bound

theorem Reads.countUpTo {k : Nat} (bound : k ≤ (Statement.all doc).length) :
    e.outline.countUpTo (endOf doc k) = k := reads.outlines.countUpTo bound

theorem Reads.next? {k : Nat} (bound : k ≤ (Statement.all doc).length) :
    e.outline.next? (endOf doc k) = (Statement.all doc)[k]? := reads.outlines.next? bound

theorem Reads.within {j k : Nat} (le : j ≤ k) (bound : k ≤ (Statement.all doc).length) :
    e.outline.within (endOf doc j) (endOf doc k) = ((Statement.all doc).take k).drop j :=
  reads.outlines.within le bound

theorem Reads.previousEnd {k : Nat} (bound : k ≤ (Statement.all doc).length) :
    e.outline.previousEnd (endOf doc k) = endOf doc (k - 1) := reads.outlines.previousEnd bound

theorem Reads.boundaryAt (cursor : Nat) :
    ∃ k ≤ (Statement.all doc).length, e.outline.boundaryAt cursor = endOf doc k := reads.outlines.boundaryAt cursor

end

/-! ## Texts up to a position -/

section
variable {doc : String} {e : Engine} {v : View} {k m : Nat}

theorem textsTo_succ {s : Statement} (found : (Statement.all doc)[k]? = some s) :
    textsTo doc (k + 1) = textsTo doc k ++ [s.text] := by
  rw [textsTo, List.take_add_one, found, List.map_append]
  rfl

theorem take_textsTo (le : k ≤ m) : (textsTo doc m).take k = textsTo doc k := by
  rw [textsTo, ← List.map_take, List.take_take, Nat.min_eq_left le, textsTo]

theorem soundTo_le (le : k ≤ m) (sound : SoundTo doc m) : SoundTo doc k := by
  intro t mem
  rw [← take_textsTo le] at mem
  exact sound t (List.mem_of_mem_take mem)

theorem soundTo_succ {s : Statement} (found : (Statement.all doc)[k]? = some s) (sound : SoundTo doc k)
    (next : Echo.sound s.text = true) : SoundTo doc (k + 1) := by
  intro t mem
  rw [textsTo_succ found] at mem
  rcases List.mem_append.mp mem with old | new
  · exact sound t old
  · obtain rfl : t = s.text := by simpa using new
    exact next

theorem whole_of_mem_all {s : Statement} (mem : s ∈ Statement.all doc) : Statement.Whole s.text.toList :=
  Statement.whole_of_mem mem

/-- The text of a statement is read as this statement. -/
theorem reads_text {s : Statement} (mem : s ∈ Statement.all doc) :
    (Statement.all s.text).map (·.text) = [s.text] := by
  have lines : (Statement.all ("\n".intercalate [s.text])).map (·.text) = [s.text] :=
    Statement.all_lines (by simpa using whole_of_mem_all mem)
  rwa [String.intercalate_singleton] at lines

theorem segments_of_last? {r : Response} {mark : Marker} (last : r.last? = some mark) : r.segments.isEmpty = false := by
  cases empty : r.segments with
  | nil => simp [Response.last?, empty] at last
  | cons s rest => rfl

/-- An answer with a marker leaves the engine ready. -/
theorem Ready.answered (ready : Ready e v) {r : Response} (some : r.segments.isEmpty = false) (text : String)
    (id : Nat) (accepted : List String) : Ready (e.answered r) (v.taken text id accepted) where
  settings := ready.settings
  rules := ready.rules
  gate := rfl
  runs := ready.runs
  free := ready.free
  queue := by simp [Engine.answered, View.taken, some]

/-- The engine holds more statements for verified, or fewer. -/
theorem Ready.moved (ready : Ready e v) (log : UndoLog) (proved offset : Nat) :
    Ready { e with undo := log, proved, offset } v :=
  ⟨ready.settings, ready.rules, ready.gate, ready.runs, ready.free, ready.queue⟩

/-- A process that has died leaves the engine where it was. -/
theorem Holds.fallen (at' : At doc k e v) {v' : View} (dead : v'.running = false) (free : v'.scripts = []) :
    Fallen doc k (e.lost death) v' := by
  obtain ⟨disorder, current, before⟩ := at'.log.invalidate (.positionLost death.message)
  exact { settings := at'.settings, rules := at'.rules, document := at'.document, outline := at'.outline,
          bound := at'.bound, sound := at'.sound, offset := at'.offset, proved := at'.proved, dead, free, disorder,
          current, before }

end

end Engine
end Frontier
