import Frontier.Exchange
import Frontier.Proofs.Counting

/-!
# Published texts carry no markers

A response is published without the markers that the prover prints for the program. Taking markers out of a text is not
enough for that, since what stands around one may be a marker when it is gone. But a text that is published stands
between two markers, or behind the last one, and the leftmost reading leaves no marker there, not even one whose number
is too large; and what is a part of such a text has none either.
-/

namespace Frontier
open Text

namespace Marker

variable {text part : List Char}

/-- A marker stands in a text, whether its number can be read or not. -/
def Shows (text : List Char) : Prop := ∃ w : Written, w.Proper ∧ w.chars <:+: text

theorem bare_iff : Bare text ↔ ¬ Shows text := by
  constructor
  · rintro bare ⟨w, proper, front, rest, rfl⟩
    have read : read? (w.chars ++ rest) = some (w, rest) := read?_iff.mpr ⟨proper, rfl⟩
    rw [bare (w.chars ++ rest) ⟨front, (List.append_assoc ..).symm⟩] at read
    cases read
  · intro unmarked s suffix
    cases read : read? s with
    | none => rfl
    | some entry =>
      obtain ⟨proper, rfl⟩ := read?_iff.mp read
      exact absurd ⟨entry.1, proper, (List.prefix_append ..).isInfix.trans suffix.isInfix⟩ unmarked

theorem Bare.inside (bare : Bare text) (within : part <:+: text) : Bare part := by
  rw [bare_iff] at bare ⊢
  rintro ⟨w, proper, shown⟩
  exact bare ⟨w, proper, shown.trans within⟩

theorem bare_nil : Bare [] := fun s suffix => by rw [List.suffix_nil.mp suffix]; rfl

/-- The text in front of a marker is bare, since markers are read from the left. -/
theorem split_pieces_bare (text : List Char) : ∀ piece ∈ (split text).1, Bare piece.1 := by
  fun_induction split text with
  | case1 cs w rest read more trailing found ih =>
    rw [found] at ih
    exact List.forall_mem_cons.mpr ⟨bare_nil, ih⟩
  | case2 => simp
  | case3 c rest unread ih =>
    have whole := split_whole rest
    cases found : split rest with
    | mk pieces trailing =>
      rw [found] at ih whole
      cases pieces with
      | nil => simp [consText]
      | cons piece others =>
        obtain ⟨first, later⟩ := List.forall_mem_cons.mp ih
        refine List.forall_mem_cons.mpr ⟨bare_cons ?_ first, later⟩
        -- A marker at the head would be read in the whole text, too.
        cases read : read? (c :: piece.1) with
        | none => rfl
        | some entry =>
          have again := read?_more read (piece.2.chars ++ ((others.flatMap fun p => p.1 ++ p.2.chars) ++ trailing))
          rw [← whole] at unread
          simp only [List.flatMap_cons, List.append_assoc, List.cons_append] at unread again
          rw [unread] at again
          cases again

/-- Nothing is taken out of a bare text. -/
theorem strip_bare {text : String} (bare : Bare text.toList) : strip text = text := by
  simp [strip, split_bare bare]

/-- What is left when a marker is taken out may be one. -/
example : strip "[1[2|x]>|y]>" = "[1|y]>" := by decide +kernel

end Marker

open Marker (Bare Shows)

namespace Counter

/-- Every segment but those counted before is the text in front of a marker. -/
theorem foldl_take_outputs {found : List (List Char × Marker.Written)} (bare : ∀ piece ∈ found, Bare piece.1)
    {c : Counter} (before : ∀ s ∈ c.segments, Bare s.output.toList) :
    ∀ s ∈ (found.foldl take c).segments, Bare s.output.toList := by
  induction found generalizing c with
  | nil => exact before
  | cons piece rest ih =>
    obtain ⟨first, others⟩ := List.forall_mem_cons.mp bare
    refine ih others ?_
    obtain ⟨text, w⟩ := piece
    cases mark : w.marker? with
    | none => simpa [take, mark] using before
    | some m =>
      by_cases starts : c.startup = some m.id
      · simpa [take, mark, starts] using before
      · simp only [take, mark, starts, ↓reduceIte]
        refine List.forall_mem_append.mpr ⟨before, List.forall_mem_singleton.mpr ?_⟩
        rw [String.toList_ofList]
        exact first.inside (infix_trimBoth isLineEnd text)

theorem fed_outputs (initial : Option Nat) (chunks : List String) :
    ∀ s ∈ (fed initial chunks).segments, Bare s.output.toList := by
  rw [fed_join]
  exact foldl_take_outputs (Marker.split_pieces_bare _) (by simp)

theorem fed_trailing (initial : Option Nat) (chunks : List String) :
    Bare (fed initial chunks).trailing.toList := by
  rw [fed_join, trailing, String.toList_ofList]
  exact Marker.split_leaves_bare _

end Counter

/-! ## What an error pattern finds -/

namespace Pattern

theorem distinct_subset (threads : List Thread) : ∀ t ∈ distinct threads, t ∈ threads := by
  suffices kept : ∀ kept : List Thread, ∀ t ∈ threads.foldl
      (fun kept t => if kept.any (·.rest == t.rest) then kept else kept ++ [t]) kept, t ∈ kept ∨ t ∈ threads by
    intro t mem
    simpa using kept [] t mem
  induction threads with
  | nil => exact fun kept t mem => .inl mem
  | cons first rest ih =>
    intro kept t mem
    rw [List.foldl_cons] at mem
    rcases ih _ t mem with earlier | later
    · split at earlier
      · exact .inl earlier
      · rcases List.mem_append.mp earlier with old | new
        · exact .inl old
        · exact .inr (List.mem_cons.mpr (.inl (List.mem_singleton.mp new)))
    · exact .inr (List.mem_cons_of_mem _ later)

/-- Whatever a search finds, a match began there. -/
theorem search_suffix {p : Pattern} {whole text : List Char} (inside : text <:+ whole) {best : Option (List Char)}
    (known : ∀ found ∈ best, found <:+ whole) {threads : List Thread} (begun : ∀ t ∈ threads, t.start <:+ whole)
    (before : Option Char) : ∀ found ∈ p.search best threads before text, found <:+ whole := by
  unfold search
  extract_lets followed place earlier best'
  have starts : ∀ t ∈ followed, t.start <:+ whole := by
    unfold followed
    split
    · intro t mem
      rcases List.mem_append.mp (distinct_subset _ t mem) with old | new
      · exact begun t old
      · rw [List.mem_singleton.mp new]
        exact inside
    · exact begun
  have complete : ∀ found ∈ best', found <:+ whole := by
    unfold best'
    split
    · next t later rest =>
      rintro found ⟨⟩
      exact starts t (List.mem_of_mem_drop (rest ▸ List.mem_cons_self))
    · exact known
  split
  · exact complete
  · next c more =>
    split
    · exact complete
    · refine search_suffix ((List.suffix_cons c more).trans inside) complete ?_ _
      intro t mem
      obtain ⟨first, early, goes⟩ := List.mem_flatMap.mp (distinct_subset _ t mem)
      obtain ⟨rest, -, rfl⟩ := List.mem_map.mp goes
      exact starts first ((List.takeWhile_sublist _).subset early)
termination_by text.length

theorem find?_suffix {p : Pattern} {text found : List Char} (finds : p.find? text = some found) : found <:+ text :=
  search_suffix List.suffix_rfl (by simp) (by simp) none found finds

end Pattern

/-- The message of an error is a part of the text that reports it. -/
theorem Rules.error?_inside {rules : Rules} {output message : String} (reports : rules.error? output = some message) :
    message.toList <:+: output.toList := by
  obtain ⟨found, finds, rfl⟩ := Option.map_eq_some_iff.mp reports
  rw [String.toList_ofList]
  exact (infix_trimBoth isBlank found).trans (Pattern.find?_suffix finds).isInfix

/-! ## What is published -/

namespace Response

/-- The text that a response is published with, before it is trimmed. -/
inductive Chooses (r : Response) : String → Prop
  /-- A segment that reports an error. -/
  | erring {i : Nat} {message : String} {s : Segment} (error : r.error = some (i, message))
      (segment : r.segments[i]? = some s) : Chooses r s.output
  /-- The message of an error behind the last marker. -/
  | trailing {i : Nat} {message : String} (error : r.error = some (i, message)) (none : r.segments[i]? = none) :
      Chooses r message
  /-- The last segment, if there is no error. -/
  | last {s : Segment} (fine : r.error = none) (last : r.segments.getLast? = some s) : Chooses r s.output
  /-- Nothing, if no marker was counted. -/
  | nothing (fine : r.error = none) (none : r.segments = []) : Chooses r ""

theorem firstError_bare {rules : Rules} {trailing : String} {segments : List Segment} {index : Nat}
    (bare : ∀ s ∈ segments, Bare s.output.toList) (rest : Bare trailing.toList) {i : Nat} {message : String}
    (error : firstError rules trailing index segments = some (i, message)) : Bare message.toList := by
  induction segments generalizing index with
  | nil =>
    obtain ⟨found, reports, same⟩ := Option.map_eq_some_iff.mp error
    obtain ⟨-, rfl⟩ := Prod.mk.inj same
    exact rest.inside (Rules.error?_inside reports)
  | cons s more ih =>
    obtain ⟨first, others⟩ := List.forall_mem_cons.mp bare
    rw [firstError] at error
    split at error
    · next found reports =>
      obtain ⟨-, rfl⟩ := Prod.mk.inj (Option.some.inj error)
      exact first.inside (Rules.error?_inside reports)
    · exact ih others error

/-- Some text is chosen, and it has no markers if nothing in the response has. -/
theorem chooses_bare {r : Response} (bare : ∀ s ∈ r.segments, Bare s.output.toList)
    (reports : ∀ e ∈ r.error, Bare e.2.toList) :
    ∃ shown, r.Chooses shown ∧ Bare shown.toList ∧ r.display = String.ofList (trim (Marker.strip shown).toList) := by
  unfold display
  cases error : r.error with
  | some e =>
    cases segment : r.segments[e.1]? with
    | some s =>
      exact ⟨s.output, .erring error segment, bare s (List.mem_of_getElem? segment), by simp [segment]⟩
    | none => exact ⟨e.2, .trailing error segment, reports e error, by simp [segment]⟩
  | none =>
    cases last : r.segments.getLast? with
    | some s => exact ⟨s.output, .last error last, bare s (List.mem_of_getLast? last), by simp⟩
    | none =>
      exact ⟨"", .nothing error (List.getLast?_eq_none_iff.mp last), Marker.bare_nil, by simp⟩

end Response

/-- Whatever a command's counter was fed, no marker stands in any segment, behind the last one, or in the text that is
published, which is a segment or an error's message, trimmed: there is nothing to take out of it. -/
theorem published_text_unmarked (initial : Option Nat) (chunks : List String) (rules : Rules) :
    (∀ s ∈ (Counter.fed initial chunks).segments, ¬ Shows s.output.toList) ∧
      ¬ Shows (Counter.fed initial chunks).trailing.toList ∧
      ∃ shown, (Response.ofCounter rules (Counter.fed initial chunks)).Chooses shown ∧
        (Response.ofCounter rules (Counter.fed initial chunks)).display = String.ofList (trim shown.toList) ∧
        ¬ Shows (Response.ofCounter rules (Counter.fed initial chunks)).display.toList ∧
        Marker.strip (Response.ofCounter rules (Counter.fed initial chunks)).display =
          (Response.ofCounter rules (Counter.fed initial chunks)).display := by
  have outputs := Counter.fed_outputs initial chunks
  have trailing := Counter.fed_trailing initial chunks
  obtain ⟨shown, chosen, unmarked, display⟩ :=
    Response.chooses_bare (r := .ofCounter rules (Counter.fed initial chunks)) outputs
      fun e error => Response.firstError_bare outputs trailing error
  rw [Marker.strip_bare unmarked] at display
  have bare : Bare (Response.ofCounter rules (Counter.fed initial chunks)).display.toList := by
    rw [display, String.toList_ofList]
    exact unmarked.inside (infix_trimBoth isBlank shown.toList)
  exact ⟨fun s mem => Marker.bare_iff.mp (outputs s mem), Marker.bare_iff.mp trailing, shown, chosen, display,
    Marker.bare_iff.mp bare, Marker.strip_bare bare⟩

end Frontier
