import Frontier.Proofs.Command
import Frontier.Proofs.Counting

/-!
# Batches

A batch is read as the statements that it was made of, although they stood among comments in their script. So a prover
that reads commands as scripts are read prints just the markers that the engine waits for.
-/

namespace Frontier
open Text

namespace Marker

/-! ## Markers of lines -/

theorem find_front {front : String} (bare : '[' ∉ front.toList) (text : String) : find (front ++ text) = find text := by
  rw [find_eq, find_eq text, String.toList_append, split_plain_append (plain_of_not_mem bare)]

/-- A line end completes no marker. -/
theorem find_line (text : String) : find (text ++ "\n") = find text := by
  have rest : (split ((split text.toList).2 ++ ['\n'])).1 = [] := by
    have line : Bare ((split text.toList).2 ++ ['\n']) := by
      have bare := split_leaves_bare text.toList
      generalize (split text.toList).2 = trailing at bare
      intro s suffix
      cases read : read? s with
      | none => rfl
      | some entry =>
        obtain ⟨w, left⟩ := entry
        obtain ⟨proper, rfl⟩ := read?_iff.mp read
        obtain ⟨front, same⟩ := suffix
        rcases List.eq_nil_or_concat left with rfl | ⟨left, c, rfl⟩
        · have close : front ++ (w.chars ++ []) =
              (front ++ '[' :: (w.digits ++ '|' :: (w.tag ++ [']']))) ++ ['>'] := by simp [Marker.Written.chars]
          rw [close] at same
          have last := (List.append_inj' same rfl).2
          simp at last
        · have shorter : w.chars ++ left <:+ trailing := by
            refine ⟨front, ?_⟩
            rw [List.concat_eq_append, ← List.append_assoc, ← List.append_assoc] at same
            rw [← (List.append_inj' same rfl).1, List.append_assoc]
          have again := bare _ shorter
          rw [read?_iff.mpr ⟨proper, rfl⟩] at again
          cases again
    rw [split_bare line]
  rw [find, find, String.toList_append, show "\n".toList = ['\n'] from rfl, split_pieces, rest, List.append_nil]

theorem find_lines (line more : String) : find (line ++ "\n" ++ more) = find line ++ find more := by
  have ends : LineEnds (line ++ "\n").toList := by simp [LineEnds, String.toList_append]
  rw [find_eq, find_eq more, String.toList_append, split_line ends, List.filterMap_append, ← find_eq, find_line]

theorem find_plain {text : String} (plain : Plain text.toList) : find text = [] := by
  rw [find, split_plain plain]
  rfl

theorem find_render {m : Marker} (tagged : m.Tagged) (small : m.id ≤ maxWord) : find m.render = [m] := by
  have cut : split ([] ++ (m.render.toList ++ [])) = _ := split_append (plain_of_not_mem List.not_mem_nil) tagged []
  rw [List.nil_append, List.append_nil, split_nil] at cut
  rw [find, cut]
  simp [written_marker? small]

end Marker

/-! ## Answers -/

namespace Statement

/-- What a prover prints for statements: something that it says of each of them, and a marker. -/
def answers (said : String → String) (marks : Nat → Marker) : Nat → List String → String
  | _, [] => ""
  | i, text :: rest => said text ++ "\n" ++ (marks i).render ++ "\n" ++ answers said marks (i + 1) rest

theorem find_answers {said : String → String} {marks : Nat → Marker} {first : Nat} {texts : List String}
    (silent : ∀ t ∈ texts, Marker.find (said t) = [])
    (written : ∀ i < texts.length, (marks (first + i)).Tagged ∧ (marks (first + i)).id ≤ maxWord) :
    Marker.find (answers said marks first texts) = (List.range' first texts.length).map marks := by
  induction texts generalizing first with
  | nil => rw [answers, Marker.find, String.toList_empty, Marker.split_nil]; rfl
  | cons text rest ih =>
    obtain ⟨quiet, others⟩ := List.forall_mem_cons.mp silent
    obtain ⟨tagged, small⟩ : (marks first).Tagged ∧ (marks first).id ≤ maxWord := written 0 (Nat.succ_pos _)
    have later : ∀ i < rest.length, (marks (first + 1 + i)).Tagged ∧ (marks (first + 1 + i)).id ≤ maxWord := by
      intro i lt
      rw [Nat.add_assoc, Nat.add_comm 1]
      exact written (i + 1) (Nat.succ_lt_succ lt)
    have line : answers said marks first (text :: rest) =
        said text ++ "\n" ++ ((marks first).render ++ "\n" ++ answers said marks (first + 1) rest) := by
      simp only [answers, String.append_assoc]
    rw [line, Marker.find_lines, Marker.find_lines, quiet, Marker.find_render tagged small, ih others later]
    rfl

end Statement

namespace Counter

theorem feed_markers (text : String) : (({} : Counter).feed text).segments.map (·.marker) = Marker.find text := by
  have counts := fed_counts none [text]
  have unseen : (fed none [text]).ignored = false := by
    by_contra seen
    obtain ⟨m, -, startup⟩ := counts.ignored.mp (by simpa using seen)
    cases startup
  have segments := counts.segments
  rw [unseen, if_neg (by simp), String.join_cons, String.join_nil, String.append_empty] at segments
  exact segments

theorem responses_eq (text : String) : (({} : Counter).feed text).responses = (Marker.find text).length := by
  rw [← feed_markers, List.length_map, responses]

end Counter

namespace Echo

theorem printed_eq (id : Nat) (texts : List String) :
    printed id texts = Statement.answers ("+ " ++ ·) mark (id + 1) texts := by
  induction texts generalizing id with
  | nil => rfl
  | cons text rest ih => simp only [printed, Statement.answers, ih, markerLine, mark, String.append_assoc]

theorem undoTarget?_empty : undoTarget? "" = none := by decide

/-- The echo prover's answer to an undo is one marker line, behind an error if it refuses. -/
theorem undo_answer (p : Echo) (target : Nat) (known : p.id ≤ maxWord) :
    ∃ answer, (p.undo target).queue = p.queue ++ [(0, .output answer)] ∧ (Marker.find answer).length = 1 := by
  have marker : ∀ id ≤ maxWord, Marker.find (markerLine id) = [mark id] := by
    intro id small
    rw [markerLine, Marker.find_line]
    exact Marker.find_render (mark_tagged id) small
  unfold undo
  split
  · refine ⟨_, rfl, ?_⟩
    have refusal : Marker.find ("[error-0-0-0-4]cannot undo to " ++ toString target) = [] := by
      have digits : '[' ∉ (toString target).toList := by
        intro mem
        exact absurd (digits_toString _ mem) (by decide)
      have bare : '[' ∉ "0-0-0-4".toList ++ ']' :: ("cannot undo to ".toList ++ (toString target).toList) := by
        rw [List.mem_append, List.mem_cons, List.mem_append]
        simpa using digits
      have plain := plain_error bare
      apply Marker.find_plain
      simpa [String.toList_append] using plain
    show (Marker.find ("[error-0-0-0-4]cannot undo to " ++ toString target ++ "\n" ++ markerLine p.id)).length = 1
    rw [Marker.find_lines, refusal, marker _ known]
    rfl
  · next granted =>
    have less : target ≤ p.id := by
      simp only [Bool.or_eq_true, decide_eq_true_eq, not_or, Nat.not_lt] at granted
      exact granted.2
    exact ⟨_, rfl, by rw [marker _ (Nat.le_trans less known)]; rfl⟩

/-- A command of statements that are all accepted is answered with a marker for each of them. A single statement may be
taken for an undo, which is answered with one, too. -/
theorem respond_markers (p : Echo) {texts : List String} (whole : ∀ t ∈ texts, Statement.Whole t.toList)
    (sounds : ∀ t ∈ texts, sound t = true) (silent : ∀ t ∈ texts, Marker.find t = [])
    (small : p.id + texts.length ≤ maxWord) :
    ∃ answer, (p.respond ("\n".intercalate texts)).queue = p.queue ++ [(0, .output answer)] ∧
      (Marker.find answer).length = texts.length := by
  cases undo : undoTarget? ("\n".intercalate texts) with
  | some target =>
    have one : texts.length = 1 := by
      by_contra other
      by_cases several : 2 ≤ texts.length
      · rw [Engine.undoTarget?_batch whole several] at undo
        cases undo
      · obtain rfl : texts = [] := List.length_eq_zero_iff.mp (by omega)
        rw [String.intercalate_nil, undoTarget?_empty] at undo
        cases undo
    obtain ⟨answer, queued, single⟩ := p.undo_answer target (by omega)
    refine ⟨answer, ?_, by rw [single, one]⟩
    rw [respond, undo]
    exact queued
  | none =>
    refine ⟨printed p.id texts, ?_, ?_⟩
    · rw [respond_sound p undo (Statement.all_lines whole) sounds]
      rfl
    · rw [printed_eq, Statement.find_answers]
      · simp
      · intro t mem
        rw [Marker.find_front (by decide)]
        exact silent t mem
      · intro i lt
        refine ⟨mark_tagged _, ?_⟩
        show p.id + 1 + i ≤ maxWord
        omega

end Echo

open Engine Statement

/-- A batch of statements that stand one after the other in a script is read as these statements, whatever they are. A
prover that reads commands so answers with a marker for each of them, as the echo prover does if none of them fails. -/
theorem batch_reads_as_sent {script : String} {run : List Statement} (part : run <:+: all script) :
    (all (batchText run)).length = run.length ∧
      (all (batchText run)).map (·.text) = run.map (·.text) ∧
      (∀ (said : String → String) (marks : Nat → Marker), (∀ s ∈ run, Marker.find (said s.text) = []) →
        (∀ i < run.length, (marks i).Tagged ∧ (marks i).id ≤ maxWord) →
        (({} : Counter).feed (answers said marks 0 ((all (batchText run)).map (·.text)))).segments.map (·.marker) =
          (List.range run.length).map marks) ∧
      ∀ p : Echo, (∀ s ∈ run, Echo.sound s.text = true ∧ Marker.find s.text = []) → p.id + run.length ≤ maxWord →
        ∃ answer, (p.respond (batchText run)).queue = p.queue ++ [(0, .output answer)] ∧
          (({} : Counter).feed answer).responses = run.length := by
  have each : ∀ {P : String → Prop}, (∀ s ∈ run, P s.text) → ∀ t ∈ run.map (·.text), P t := by
    intro P holds t mem
    obtain ⟨s, inRun, rfl⟩ := List.mem_map.mp mem
    exact holds s inRun
  have whole : ∀ t ∈ run.map (·.text), Whole t.toList := each fun s mem => whole_of_mem (part.subset mem)
  have reads : (all (batchText run)).map (·.text) = run.map (·.text) := all_lines whole
  have count := congrArg List.length reads
  rw [List.length_map, List.length_map] at count
  refine ⟨count, reads, ?_, ?_⟩
  · intro said marks silent written
    have markers : Marker.find (answers said marks 0 (run.map (·.text))) = _ :=
      find_answers (each silent) (by simpa using written)
    rw [Counter.feed_markers, reads, markers, List.length_map, List.range_eq_range']
  · intro p fine small
    obtain ⟨answer, queued, markers⟩ := p.respond_markers whole (each fun s mem => (fine s mem).1)
      (each fun s mem => (fine s mem).2) (by simpa using small)
    refine ⟨answer, queued, ?_⟩
    rw [Counter.responses_eq, markers, List.length_map]

theorem batch_reads_as_sent_commented :
    ([⟨"b \"x. y\" (* p. *) c.", 11, 31⟩, ⟨"d.", 38, 40⟩] : List Statement) <:+:
        all "(* z *) a.\nb \"x. y\" (* p. *) c.(* q *)d." ∧
      (all (batchText [⟨"b \"x. y\" (* p. *) c.", 11, 31⟩, ⟨"d.", 38, 40⟩])).map (·.text) =
        ["b \"x. y\" (* p. *) c.", "d."] ∧
      ∃ answer, (({ id := 4 } : Echo).respond (batchText [⟨"b \"x. y\" (* p. *) c.", 11, 31⟩, ⟨"d.", 38, 40⟩])).queue =
          [(0, .output answer)] ∧ (({} : Counter).feed answer).responses = 2 := by
  have part : ([⟨"b \"x. y\" (* p. *) c.", 11, 31⟩, ⟨"d.", 38, 40⟩] : List Statement) <:+:
      all "(* z *) a.\nb \"x. y\" (* p. *) c.(* q *)d." :=
    ⟨[⟨"a.", 8, 10⟩], [], by decide +kernel⟩
  obtain ⟨-, texts, -, answers⟩ := batch_reads_as_sent part
  refine ⟨part, texts, answers { id := 4 } ?_ (by decide)⟩
  decide +kernel

end Frontier
