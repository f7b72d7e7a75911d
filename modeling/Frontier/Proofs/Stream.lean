import Frontier.Proofs.Counting

/-!
# Streams of responses

A prover that prints each response with its marker and a line end is read back response by response. The tag of a marker
may look like the beginning of another marker, since markers are found from the left and no tag holds the bracket that
ends it.
-/

namespace Frontier
open Text

namespace Marker

theorem plain_line {before : List Char} (blank : before = [] ∨ before = ['\n']) {text : List Char}
    (plain : Marker.Plain text) : Marker.Plain (before ++ text) := by
  apply Marker.Plain.append _ plain
  rcases blank with rfl | rfl
  · trivial
  · exact Marker.plain_of_not_mem (by decide)

end Marker

namespace Counter

/-- Accounts for a text. -/
def scan (c : Counter) (cs : List Char) : Counter :=
  { (Marker.split cs).1.foldl take c with carry := (Marker.split cs).2 }

theorem feed_eq (c : Counter) (chunk : String) : c.feed chunk = c.scan (c.carry ++ chunk.toList) := rfl

theorem scan_plain (c : Counter) {text : List Char} (plain : Marker.Plain text) :
    c.scan text = { c with carry := text } := by
  simp [scan, Marker.split_plain plain]

/-- A segment whose text was printed before a marker. -/
def segment (text : List Char) (m : Marker) : Segment := ⟨String.ofList (trimBoth isLineEnd text), m⟩

theorem scan_marker {c : Counter} (shown : c.startup = none) {text : List Char} (plain : Marker.Plain text) {m : Marker}
    (tagged : m.Tagged) (small : m.id ≤ maxWord) (rest : List Char) :
    c.scan (text ++ (m.render.toList ++ rest)) =
      ({ c with ids := c.ids ++ [m.id], segments := c.segments ++ [segment text m] } : Counter).scan rest := by
  have first : c.take (text, m.written) =
      { c with ids := c.ids ++ [m.id], segments := c.segments ++ [segment text m] } := by
    simp [take, Marker.written_marker? small, shown, segment]
  simp only [scan, Marker.split_append plain tagged, List.foldl_cons, first]

/-- A line end before a text is no part of its segment. -/
theorem segment_newline {before : List Char} (blank : before = [] ∨ before = ['\n']) (text : List Char) (m : Marker) :
    segment (before ++ text) m = segment text m := by
  rcases blank with rfl | rfl
  · rfl
  · rw [segment, List.singleton_append, trimBoth_cons (by decide), segment]

end Counter

namespace Segment

/-- A response that can be told from its marker: nothing before the marker looks like one, and the marker can be read. -/
structure Legible (s : Segment) : Prop where
  plain : '[' ∉ s.output.toList
  tagged : s.marker.Tagged
  small : s.marker.id ≤ maxWord

/-- A response as it is printed. -/
def printed (s : Segment) : String := s.output ++ s.marker.render ++ "\n"

/-- A response without the line ends around it. -/
def trimmed (s : Segment) : Segment := { s with output := String.ofList (trimBoth isLineEnd s.output.toList) }

/-- The text of some responses, one after the other. -/
def stream (responses : List Segment) : String := String.join (responses.map printed)

end Segment

open Segment (stream)

/-- A counter takes in a stream response by response. The line end behind a marker is held over, and is then no part of
the next response. -/
theorem Counter.scan_stream {c : Counter} (shown : c.startup = none) {responses : List Segment}
    (legible : ∀ s ∈ responses, s.Legible) {before : List Char} (blank : before = [] ∨ before = ['\n'])
    (rest : List Char) :
    c.scan (before ++ ((stream responses).toList ++ rest)) =
      ({ c with
        ids := c.ids ++ responses.map (·.marker.id)
        segments := c.segments ++ responses.map Segment.trimmed } : Counter).scan
          ((if responses.isEmpty then before else ['\n']) ++ rest) := by
  induction responses generalizing c before with
  | nil => simp [stream]
  | cons s more ih =>
    obtain ⟨first, others⟩ := List.forall_mem_cons.mp legible
    have line : (stream (s :: more)).toList ++ rest =
        s.output.toList ++ (s.marker.render.toList ++ (['\n'] ++ ((stream more).toList ++ rest))) := by
      simp [stream, Segment.printed, String.toList_append]
    have bare : Marker.Plain s.output.toList := Marker.plain_of_not_mem first.plain
    rw [line, ← List.append_assoc, Counter.scan_marker shown (Marker.plain_line blank bare) first.tagged first.small,
      ih ?_ others (.inr rfl), segment_newline blank]
    · simp only [List.map_cons, List.append_assoc, List.singleton_append, List.isEmpty_cons, Bool.false_eq_true,
        ↓reduceIte, ite_self]
      rfl
    · exact shown

/-- A stream that is fed in chunks is counted response by response. -/
theorem Counter.fed_stream {responses : List Segment} (some : responses ≠ []) (legible : ∀ s ∈ responses, s.Legible)
    {chunks : List String} (whole : String.join chunks = stream responses) :
    fed none chunks =
      { ids := responses.map (·.marker.id), segments := responses.map Segment.trimmed, carry := ['\n'] } := by
  have scan := scan_stream (c := {}) rfl legible (.inl rfl) []
  simp only [List.nil_append, List.append_nil, List.isEmpty_eq_false_iff.mpr some, Bool.false_eq_true,
    ↓reduceIte] at scan
  rw [fed_join, whole]
  show ({} : Counter).feed (stream responses) = _
  rw [feed_eq, List.nil_append, scan, scan_plain _ (Marker.plain_of_not_mem (by decide))]

/-- A stream of responses, printed each with its marker and a line end, is read back in any chunking: every response
without the line ends around it, with its marker, and a last line end. The markers of its text are those of the
responses. -/
theorem stream_read_back {responses : List Segment} (some : responses ≠ []) (legible : ∀ s ∈ responses, s.Legible)
    {chunks : List String} (whole : String.join chunks = stream responses) :
    (Counter.fed none chunks).segments = responses.map Segment.trimmed ∧
      (Counter.fed none chunks).trailing = "\n" ∧
      Marker.find (stream responses) = responses.map (·.marker) := by
  have counted := Counter.fed_stream some legible whole
  have counts := Counter.fed_counts none chunks
  rw [counted, whole] at counts
  refine ⟨by rw [counted], by rw [counted]; rfl, ?_⟩
  have markers := counts.segments
  simp only [Bool.false_eq_true, ↓reduceIte, List.map_map] at markers
  exact markers.symm

/-- Two responses whose tags look like markers, cut inside them. -/
theorem nested_tags_read_back :
    [(⟨"ok\n", ⟨1, "[2|x"⟩⟩ : Segment), ⟨"", ⟨18446744073709551615, "3|[4|>"⟩⟩] ≠ [] ∧
      (∀ s ∈ [(⟨"ok\n", ⟨1, "[2|x"⟩⟩ : Segment), ⟨"", ⟨18446744073709551615, "3|[4|>"⟩⟩], s.Legible) ∧
      String.join ["ok\n[1|[2", "|x]>\n[184467440737", "09551615|3|[4|>]>\n"] =
        stream [⟨"ok\n", ⟨1, "[2|x"⟩⟩, ⟨"", ⟨18446744073709551615, "3|[4|>"⟩⟩] ∧
      (Counter.fed none ["ok\n[1|[2", "|x]>\n[184467440737", "09551615|3|[4|>]>\n"]).segments =
        [⟨"ok", ⟨1, "[2|x"⟩⟩, ⟨"", ⟨18446744073709551615, "3|[4|>"⟩⟩] := by
  have legible : ∀ s ∈ [(⟨"ok\n", ⟨1, "[2|x"⟩⟩ : Segment), ⟨"", ⟨18446744073709551615, "3|[4|>"⟩⟩], s.Legible := by
    intro s mem
    simp only [List.mem_cons, List.not_mem_nil, or_false] at mem
    rcases mem with rfl | rfl
    · exact ⟨by decide, List.all_eq_true.mp (by decide), by decide⟩
    · exact ⟨by decide, List.all_eq_true.mp (by decide), by decide⟩
  have whole : String.join ["ok\n[1|[2", "|x]>\n[184467440737", "09551615|3|[4|>]>\n"] =
      stream [⟨"ok\n", ⟨1, "[2|x"⟩⟩, ⟨"", ⟨18446744073709551615, "3|[4|>"⟩⟩] := by decide +kernel
  refine ⟨by simp, legible, whole, ?_⟩
  rw [(stream_read_back (by simp) legible whole).1]
  decide +kernel

end Frontier
