import Frontier.Exchange
import Frontier.Proofs.ErrorPattern
import Frontier.Proofs.Ledger
import Frontier.Proofs.Stream

/-!
# The echo prover's answers

What a counter makes of the text that the echo prover prints: one segment for each statement accepted, with the numbers
of the states passed through, and the error of one rejected. Texts without an opening bracket cannot be mistaken for
markers or errors.
-/

namespace Frontier
open Text

namespace Echo

/-- The mark of a state. -/
def mark (id : Nat) : Marker := ⟨id, "check"⟩

theorem mark_tagged (id : Nat) : (mark id).Tagged := by
  have check : ∀ c ∈ "check".toList, Marker.isTagChar c = true := List.all_eq_true.mp (by decide)
  exact check

/-- The segments of accepted texts from a state on. -/
def segments (id : Nat) : List String → List Segment
  | [] => []
  | text :: rest => Counter.segment ("+ " ++ text ++ "\n").toList (mark (id + 1)) :: segments (id + 1) rest

theorem segments_length (id : Nat) (texts : List String) : (segments id texts).length = texts.length := by
  induction texts generalizing id with
  | nil => rfl
  | cons text rest ih => simp [segments, ih]

theorem segments_ids (id : Nat) (texts : List String) :
    (segments id texts).map (·.marker.id) = List.range' (id + 1) texts.length := by
  induction texts generalizing id with
  | nil => rfl
  | cons text rest ih => simp [segments, ih, Counter.segment, mark, List.range'_succ]

/-- The answers to accepted texts from a state on, each with its mark. -/
def accepted (id : Nat) : List String → List Segment
  | [] => []
  | text :: rest => ⟨"+ " ++ text ++ "\n", mark (id + 1)⟩ :: accepted (id + 1) rest

theorem printed_accepted (id : Nat) (texts : List String) : printed id texts = Segment.stream (accepted id texts) := by
  induction texts generalizing id with
  | nil => rfl
  | cons text rest ih =>
    simp [printed, accepted, Segment.stream, Segment.printed, ih, markerLine, mark, String.append_assoc]

theorem accepted_trimmed (id : Nat) (texts : List String) :
    (accepted id texts).map Segment.trimmed = segments id texts := by
  induction texts generalizing id with
  | nil => rfl
  | cons text rest ih => rw [accepted, List.map_cons, ih]; rfl

theorem accepted_legible {id : Nat} {texts : List String} (plain : ∀ t ∈ texts, '[' ∉ t.toList)
    (small : id + texts.length ≤ maxWord) : ∀ s ∈ accepted id texts, s.Legible := by
  induction texts generalizing id with
  | nil => exact List.forall_mem_nil _
  | cons text rest ih =>
    obtain ⟨first, others⟩ := List.forall_mem_cons.mp plain
    rw [List.length_cons] at small
    refine List.forall_mem_cons.mpr ⟨⟨?_, mark_tagged _, ?_⟩, ih others (by omega)⟩
    · simpa [String.toList_append] using first
    · show id + 1 ≤ maxWord
      omega

theorem scan_printed {c : Counter} (shown : c.startup = none) {id : Nat} {texts : List String}
    (plain : ∀ t ∈ texts, '[' ∉ t.toList) (small : id + texts.length ≤ maxWord) {before : List Char}
    (blank : before = [] ∨ before = ['\n']) (rest : List Char) :
    c.scan (before ++ ((printed id texts).toList ++ rest)) =
      ({ c with ids := c.ids ++ List.range' (id + 1) texts.length, segments := c.segments ++ segments id texts } :
        Counter).scan ((if texts.isEmpty then before else ['\n']) ++ rest) := by
  have ids : (accepted id texts).map (·.marker.id) = List.range' (id + 1) texts.length := by
    rw [← segments_ids, ← accepted_trimmed, List.map_map]
    rfl
  have empty : (accepted id texts).isEmpty = texts.isEmpty := by cases texts <;> rfl
  rw [printed_accepted, Counter.scan_stream shown (accepted_legible plain small) blank, ids, accepted_trimmed, empty]

/-! ## Responses -/

/-- The message of a rejection. -/
def rejection (text : String) : String :=
  String.ofList (trim (trimBoth isLineEnd ("[error-1-0-1-4]cannot prove: " ++ text ++ "\n").toList))

theorem error?_segments {id : Nat} {texts : List String} (plain : ∀ t ∈ texts, '[' ∉ t.toList) :
    ∀ s ∈ segments id texts, Rules.standard.error? s.output = none := by
  induction texts generalizing id with
  | nil => simp [segments]
  | cons text rest ih =>
    obtain ⟨first, others⟩ := List.forall_mem_cons.mp plain
    refine List.forall_mem_cons.mpr ⟨?_, ih others⟩
    apply Rules.error?_none
    intro mem
    rw [Counter.segment, String.toList_ofList] at mem
    have := (infix_trimBoth isLineEnd _).subset mem
    simp [String.toList_append, first] at this

theorem firstError_append {rules : Rules} {trailing : String} {ss more : List Segment} {index : Nat}
    (fine : ∀ s ∈ ss, rules.error? s.output = none) :
    Response.firstError rules trailing index (ss ++ more) =
      Response.firstError rules trailing (index + ss.length) more := by
  induction ss generalizing index with
  | nil => rfl
  | cons s rest ih =>
    obtain ⟨first, others⟩ := List.forall_mem_cons.mp fine
    rw [List.cons_append, Response.firstError, first]
    simp only [ih others, List.length_cons, Nat.add_assoc, Nat.add_comm 1]

/-- The counter after the answer to texts that were all accepted. -/
theorem feed_printed {id : Nat} {texts : List String} (some : texts ≠ []) (plain : ∀ t ∈ texts, '[' ∉ t.toList)
    (small : id + texts.length ≤ maxWord) : ({} : Counter).feed (printed id texts) =
      { ids := List.range' (id + 1) texts.length, segments := segments id texts, carry := ['\n'] } := by
  have scan := scan_printed (c := {}) rfl plain small (.inl rfl) []
  simp only [List.nil_append, List.append_nil, List.isEmpty_eq_false_iff.mpr some, Bool.false_eq_true,
    ↓reduceIte] at scan
  rw [Counter.feed_eq, List.nil_append, scan, Counter.scan_plain _ (Marker.plain_of_not_mem (by decide))]

theorem ofCounter_printed {id : Nat} {texts : List String} (some : texts ≠ []) (plain : ∀ t ∈ texts, '[' ∉ t.toList)
    (small : id + texts.length ≤ maxWord) :
    Response.ofCounter Rules.standard (({} : Counter).feed (printed id texts)) = ⟨segments id texts, none⟩ := by
  have fine : Response.firstError Rules.standard "\n" 0 (segments id texts ++ []) =
      Response.firstError Rules.standard "\n" (0 + (segments id texts).length) [] :=
    firstError_append (error?_segments plain)
  have trailing : Rules.standard.error? "\n" = none := Rules.error?_none (by decide)
  rw [List.append_nil] at fine
  rw [feed_printed some plain small, Response.ofCounter]
  show Response.mk _ (Response.firstError _ "\n" 0 _) = _
  rw [fine, Response.firstError, trailing]
  rfl

/-- The segment of a rejected text. -/
def rejected (id : Nat) (text : String) : Segment :=
  Counter.segment ("[error-1-0-1-4]cannot prove: " ++ text ++ "\n").toList (mark id)

/-- Trimming leaves what lies between two characters that stay. -/
theorem trimBoth_between {p : Char → Bool} {c d : Char} (first : p c = false) (last : p d = false)
    (cs more : List Char) : ∃ rest, trimBoth p (c :: (cs ++ d :: more)) = c :: (cs ++ d :: rest) := by
  have turned : (c :: (cs ++ d :: more)).reverse = more.reverse ++ d :: (cs.reverse ++ [c]) := by simp
  rw [trimBoth, List.dropWhile_cons_of_neg (by simp [first]), turned, List.dropWhile_append]
  split
  · exact ⟨[], by simp [last]⟩
  · exact ⟨(more.reverse.dropWhile p).reverse, by simp⟩

/-- A segment that begins with an error reports it. -/
theorem error?_segment {codes more : List Char} (bare : codes.all (fun c => c != '[' && c != ']') = true)
    (m : Marker) :
    Rules.standard.error? (Counter.segment ("[error-".toList ++ (codes ++ ']' :: more)) m).output =
      some (String.ofList (trim (trimBoth isLineEnd ("[error-".toList ++ (codes ++ ']' :: more))))) := by
  have plain : ∀ c ∈ codes, c ≠ '[' ∧ c ≠ ']' := fun c mem => by simpa using List.all_eq_true.mp bare c mem
  obtain ⟨rest, trimmed⟩ := trimBoth_between (p := isLineEnd) (c := '[') (d := ']') (by decide) (by decide)
    ("error-".toList ++ codes) more
  have chars : "[error-".toList ++ (codes ++ ']' :: more) = '[' :: (("error-".toList ++ codes) ++ ']' :: more) := by
    simp
  have same : (Counter.segment ("[error-".toList ++ (codes ++ ']' :: more)) m).output.toList =
      "[error-".toList ++ (codes ++ ']' :: rest) := by
    rw [Counter.segment, String.toList_ofList, chars, trimmed]
    simp
  rw [Rules.error?_some plain same, same, chars, trimmed]
  simp

/-- The counter after an answer that ends with an error. -/
theorem feed_error {id : Nat} {texts : List String} (plain : ∀ t ∈ texts, '[' ∉ t.toList)
    (small : id + texts.length ≤ maxWord) {error : String} (bare : Marker.Plain error.toList) :
    ({} : Counter).feed (printed id texts ++ error ++ markerLine (id + texts.length)) =
      { ids := List.range' (id + 1) texts.length ++ [id + texts.length]
        segments := segments id texts ++ [Counter.segment error.toList (mark (id + texts.length))]
        carry := ['\n'] } := by
  have scan := scan_printed (c := {}) rfl plain small (.inl rfl)
    (error.toList ++ ((mark (id + texts.length)).render.toList ++ ['\n']))
  have blank : (if texts.isEmpty then [] else ['\n']) = [] ∨ (if texts.isEmpty then [] else ['\n']) = ['\n'] := by
    split <;> simp
  have chars : (printed id texts ++ error ++ markerLine (id + texts.length)).toList =
      (printed id texts).toList ++ (error.toList ++ ((mark (id + texts.length)).render.toList ++ ['\n'])) := by
    simp [markerLine, mark, String.toList_append]
  rw [List.nil_append] at scan
  rw [Counter.feed_eq, List.nil_append, chars, scan, ← List.append_assoc, Counter.scan_marker ?_ (Marker.plain_line blank bare)
    (mark_tagged _) small, Counter.scan_plain _ (Marker.plain_of_not_mem (by decide)), Counter.segment_newline blank]
  · rfl
  · rfl

theorem ofCounter_error {id : Nat} {texts : List String} (plain : ∀ t ∈ texts, '[' ∉ t.toList)
    (small : id + texts.length ≤ maxWord) {error message : String} (bare : Marker.Plain error.toList)
    (reports : Rules.standard.error? (Counter.segment error.toList (mark (id + texts.length))).output = some message) :
    Response.ofCounter Rules.standard
        (({} : Counter).feed (printed id texts ++ error ++ markerLine (id + texts.length))) =
      ⟨segments id texts ++ [Counter.segment error.toList (mark (id + texts.length))],
        some (texts.length, message)⟩ := by
  rw [feed_error plain small bare, Response.ofCounter]
  simp only [firstError_append (error?_segments plain), Response.firstError, reports, segments_length, Nat.zero_add]

theorem plain_error {codes more : List Char} (plain : '[' ∉ codes ++ ']' :: more) :
    Marker.Plain ("[error-".toList ++ (codes ++ ']' :: more)) := by
  have bare : '[' ∉ "error-".toList ++ (codes ++ ']' :: more) := by simpa using plain
  exact Marker.plain_bracket (by decide) (by decide) (Marker.plain_of_not_mem bare)

end Echo
end Frontier
