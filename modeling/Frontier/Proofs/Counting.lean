import Frontier.Proofs.Pieces

/-!
# Counting does not depend on the chunks

A counter that is fed a text in chunks ends as one that is fed the whole text. It has then counted all markers of the
text but a first one with the startup id.
-/

namespace Frontier
open Text

namespace Counter

/-- What is held over has no part in what is counted. -/
theorem foldl_take_carry (found : List (List Char × Marker.Written)) (c : Counter) (text : List Char) :
    found.foldl take { c with carry := text } = { found.foldl take c with carry := text } := by
  induction found generalizing c with
  | nil => rfl
  | cons piece rest ih =>
    have first : take { c with carry := text } piece = { c.take piece with carry := text } := by
      obtain ⟨before, w⟩ := piece
      unfold take
      cases mark : w.marker? with
      | none => simp [mark]
      | some m => by_cases starts : c.startup = some m.id <;> simp [mark, starts]
    rw [List.foldl_cons, List.foldl_cons, first, ih]

theorem feed_feed (c : Counter) (first second : String) : (c.feed first).feed second = c.feed (first ++ second) := by
  have pieces := Marker.split_pieces (c.carry ++ first.toList) second.toList
  rw [List.append_assoc] at pieces
  simp only [feed, String.toList_append, pieces, List.foldl_append, foldl_take_carry]

theorem foldl_feed (c : Counter) (first : String) (chunks : List String) :
    chunks.foldl feed (c.feed first) = c.feed (first ++ String.join chunks) := by
  induction chunks generalizing first with
  | nil => simp
  | cons chunk rest ih => rw [List.foldl_cons, feed_feed, ih, String.join_cons, String.append_assoc]

/-- A counter that is fed chunks, from a session that has shown no marker if there is a startup id. -/
def fed (initial : Option Nat) (chunks : List String) : Counter := chunks.foldl feed { startup := initial }

theorem fed_join (initial : Option Nat) (chunks : List String) : fed initial chunks = fed initial [String.join chunks] := by
  have nothing : ({ startup := initial } : Counter).feed "" = { startup := initial } := by
    simp [feed, Marker.split_nil]
  have joined := foldl_feed { startup := initial } "" chunks
  rw [nothing, String.empty_append] at joined
  exact joined

/-- What a counter has made of the markers it was shown, if it began with the startup id `initial`. -/
structure Counts (initial : Option Nat) (shown : List Marker) (c : Counter) : Prop where
  ids : c.ids = shown.map (·.id)
  startup : c.startup = if shown = [] then initial else none
  ignored : c.ignored = true ↔ ∃ m ∈ shown.head?, initial = some m.id
  segments : c.segments.map (·.marker) = if c.ignored = true then shown.tail else shown

variable {initial : Option Nat} {c : Counter} {shown : List Marker}

/-- One more marker. -/
theorem Counts.take (counts : c.Counts initial shown) (text : List Char) (w : Marker.Written) :
    (c.take (text, w)).Counts initial (shown ++ w.marker?.toList) := by
  obtain ⟨ids, startup, ignored, segments⟩ := counts
  unfold Counter.take
  cases mark : w.marker? with
  | none => simpa [mark] using ⟨ids, startup, ignored, segments⟩
  | some m =>
    simp only [mark, Option.toList_some]
    cases shown with
    | nil =>
      have none : c.segments = [] := by simpa using segments
      have unseen : c.ignored = false := by simpa using ignored
      by_cases starts : initial = some m.id
      · rw [if_pos (startup.trans starts)]
        exact ⟨by simp [ids], by simp, by simp [starts], by simp [none]⟩
      · rw [if_neg (fun same => starts (startup.symm.trans same))]
        exact ⟨by simp [ids], by simp, by simp [unseen, starts], by simp [unseen, none]⟩
    | cons first rest =>
      have begun : ¬ c.startup = some m.id := by simp [startup]
      rw [if_neg begun]
      refine ⟨by simp [ids], by simp, ignored, ?_⟩
      rw [List.map_append, segments]
      by_cases seen : c.ignored = true
      · rw [if_pos seen, if_pos seen]
        rfl
      · rw [if_neg seen, if_neg seen]
        rfl

theorem Counts.takeAll (counts : c.Counts initial shown) (found : List (List Char × Marker.Written)) :
    (found.foldl Counter.take c).Counts initial (shown ++ found.filterMap (·.2.marker?)) := by
  induction found generalizing c shown with
  | nil => simpa using counts
  | cons piece rest ih =>
    obtain ⟨text, w⟩ := piece
    have more := ih (counts.take text w)
    cases mark : w.marker? with
    | none => simpa [mark] using more
    | some m => simpa [mark] using more

theorem fed_counts (initial : Option Nat) (chunks : List String) :
    (fed initial chunks).Counts initial (Marker.find (String.join chunks)) := by
  have fresh : ({ startup := initial } : Counter).Counts initial [] := ⟨rfl, rfl, by simp, rfl⟩
  have counts := fresh.takeAll (Marker.split (String.join chunks).toList).1
  rw [fed_join]
  exact { counts with }

end Counter

/-- A text that is fed in chunks is counted as a whole: all its markers are seen, and each of them closes a segment, but
a first one with the startup id. -/
theorem chunks_counted_as_whole (initial : Option Nat) (chunks : List String) :
    Counter.fed initial chunks = Counter.fed initial [String.join chunks] ∧
      (Counter.fed initial chunks).ids = (Marker.find (String.join chunks)).map (·.id) ∧
      ((Counter.fed initial chunks).ignored = true ↔
        ∃ m ∈ (Marker.find (String.join chunks)).head?, initial = some m.id) ∧
      (Counter.fed initial chunks).segments.map (·.marker) =
        (Marker.find (String.join chunks)).drop (Counter.fed initial chunks).ignored.toNat ∧
      (Counter.fed initial chunks).responses = (Counter.fed initial chunks).segments.length ∧
      (Counter.fed initial chunks).responses =
        (Counter.fed initial chunks).total - (Counter.fed initial chunks).ignored.toNat := by
  obtain ⟨ids, -, ignored, segments⟩ := Counter.fed_counts initial chunks
  have markers : (Counter.fed initial chunks).segments.map (·.marker) =
      (Marker.find (String.join chunks)).drop (Counter.fed initial chunks).ignored.toNat := by
    rw [segments]
    cases (Counter.fed initial chunks).ignored with
    | false => rfl
    | true => simp
  have lengths := congrArg List.length markers
  rw [List.length_map, List.length_drop] at lengths
  refine ⟨Counter.fed_join initial chunks, ids, ignored, markers, rfl, ?_⟩
  rw [Counter.responses, Counter.total, ids, List.length_map, lengths]

end Frontier
