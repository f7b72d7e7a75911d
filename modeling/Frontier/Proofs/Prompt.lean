import Frontier.Proofs.Completion
import Frontier.Proofs.Contract
import Frontier.Proofs.Counting
import Frontier.Proofs.ErrorPattern

/-!
# The startup prompt

A session that is started without waiting for its startup prompt prints it sometime: before the first command, behind
it, or in pieces on both sides. It answers nothing. If it has come before the command, its marker is found among what is
drained, and the command's counter counts from the first marker on; else the counter passes over a first marker with the
startup id. Either way the answer to the first command is what it would be if there had been no prompt.
-/

namespace Frontier
open Text

namespace Marker

/-- No marker begins in a text if `more` follows it. -/
def Clear (text more : List Char) : Prop := ∀ s, s <:+ text → s ≠ [] → read? (s ++ more) = none

/-- No marker is cut between two texts. -/
def Uncut (first more : List Char) : Prop := Clear (split first).2 more

/-- Puts a text in front of the text before the first marker. -/
def putBefore (text : List Char) (p : List (List Char × Written) × List Char) :
    List (List Char × Written) × List Char :=
  text.foldr consText p

variable {text more : List Char}

theorem putBefore_cons (text : List Char) (piece : List Char × Written) (others : List (List Char × Written))
    (trailing : List Char) :
    putBefore text (piece :: others, trailing) = ((text ++ piece.1, piece.2) :: others, trailing) := by
  induction text with
  | nil => rfl
  | cons c rest ih =>
    rw [putBefore, List.foldr_cons, ← putBefore, ih]
    rfl

theorem putBefore_nil (text trailing : List Char) : putBefore text ([], trailing) = ([], text ++ trailing) := by
  induction text with
  | nil => rfl
  | cons c rest ih =>
    rw [putBefore, List.foldr_cons, ← putBefore, ih]
    rfl

theorem putBefore_written (text : List Char) (p : List (List Char × Written) × List Char) :
    (putBefore text p).1.map (·.2) = p.1.map (·.2) := by
  obtain ⟨pieces, trailing⟩ := p
  cases pieces with
  | nil => rw [putBefore_nil]
  | cons piece others =>
    rw [putBefore_cons]
    rfl

theorem putBefore_trailing {p : List (List Char × Written) × List Char} (some : p.1 ≠ []) (text : List Char) :
    (putBefore text p).2 = p.2 := by
  obtain ⟨_ | ⟨piece, others⟩, trailing⟩ := p
  · exact absurd rfl some
  · rw [putBefore_cons]

/-- What follows a clear text is cut as it would be for itself. -/
theorem split_clear (clear : Clear text more) : split (text ++ more) = putBefore text (split more) := by
  induction text with
  | nil => rfl
  | cons c rest ih =>
    have none : read? (c :: (rest ++ more)) = none := clear _ List.suffix_rfl (List.cons_ne_nil _ _)
    rw [List.cons_append, split_of_none none, ih fun s suffix => clear s (suffix.trans (List.suffix_cons c rest))]
    rfl

theorem Plain.clear (plain : Plain text) (more : List Char) : Clear text more := by
  intro s suffix some
  induction text with
  | nil => exact absurd (List.suffix_nil.mp suffix) some
  | cons c rest ih =>
    rcases List.suffix_cons_iff.mp suffix with rfl | later
    · exact plain.1 more
    · exact ih plain.2 later

/-- No marker begins with a line end. -/
theorem plain_lineEnds (ends : ∀ c ∈ text, isLineEnd c = true) : Plain text :=
  plain_of_not_mem fun mem => absurd (ends _ mem) (by decide)

/-- A cut behind a line end falls into no marker. -/
theorem uncut_line (line : LineEnds text) (more : List Char) : Uncut text more :=
  ((split_leaves_bare text).plain (lineEnds_of_suffix line ⟨_, split_whole text⟩)).clear more

theorem find_eq_nil_iff (text : String) :
    find text = [] ↔ ∀ w ∈ (split text.toList).1.map (·.2), w.marker? = none := by
  rw [find_eq, List.filterMap_eq_nil_iff]

/-! ## Prompts -/

/-- The only marker of a text is the last one written there, has the number `id`, and nothing but line ends follow. -/
structure Prompt (id : Nat) (text : List Char) : Prop where
  only : ∃ unread w, (split text).1.map (·.2) = unread ++ [w] ∧ (∀ u ∈ unread, u.marker? = none) ∧
    w.marker?.map (·.id) = some id
  ended : ∀ c ∈ (split text).2, isLineEnd c = true

/-- A prompt that is cut, but not in its marker, has come with the first part, or comes with the second. -/
theorem Prompt.cut {id : Nat} {first : String} (prompt : Prompt id (first.toList ++ more))
    (uncut : Uncut first.toList more) :
    (find first = [] ∧ Prompt id more) ∨ (find first ≠ [] ∧ ∀ c ∈ more, isLineEnd c = true) := by
  obtain ⟨⟨unread, w, found, bad, starts⟩, ended⟩ := prompt
  have pieces := split_pieces first.toList more
  have clear := split_clear uncut
  rw [pieces, List.map_append] at found
  rw [pieces] at ended
  by_cases last : (split more).1 = []
  · -- The marker stands in the first part, so that what follows is part of the text behind it.
    have rest : split ((split first.toList).2 ++ more) = ([], (split first.toList).2 ++ (split more).2) := by
      rw [clear, ← putBefore_nil, ← last]
    have whole : more = (split more).2 := by
      have all := split_whole more
      rw [last] at all
      exact all.symm
    rw [rest, List.map_nil, List.append_nil] at found
    refine .inr ⟨?_, ?_⟩
    · intro none
      rw [find_eq_nil_iff, found] at none
      rw [none w (List.mem_append_right _ List.mem_cons_self)] at starts
      cases starts
    · intro c mem
      rw [whole] at mem
      refine ended c ?_
      rw [rest]
      exact List.mem_append_right _ mem
  · have some : (split more).1.map (·.2) ≠ [] := by simpa using last
    rw [clear, putBefore_written] at found
    rw [clear, putBefore_trailing last] at ended
    have joined := List.dropLast_append_getLast some
    rw [← joined, ← List.append_assoc] at found
    obtain ⟨front, same⟩ := List.append_inj' found rfl
    refine .inl ⟨?_, ⟨(((split more).1.map (·.2)).dropLast), w, ?_, ?_, starts⟩, ended⟩
    · rw [find_eq_nil_iff]
      intro u mem
      exact bad u (front ▸ List.mem_append_left _ mem)
    · rw [← same, joined]
    · intro u mem
      exact bad u (front ▸ List.mem_append_right _ mem)

/-- No marker is cut between any of these texts. -/
def UncutAll : List String → Prop
  | [] => True
  | first :: rest => Uncut first.toList (String.join rest).toList ∧ UncutAll rest

end Marker

open Marker (Prompt Uncut UncutAll)

namespace Counter

variable {c c' : Counter} {id : Nat} {text more : List Char}

/-- Two counters have counted the same responses and go on alike, whatever markers they have seen besides. -/
structure Alike (c c' : Counter) : Prop where
  startup : c.startup = c'.startup
  segments : c.segments = c'.segments

theorem Alike.refl (c : Counter) : c.Alike c := ⟨rfl, rfl⟩

/-- Line ends before the text of a segment are not counted. -/
theorem Alike.take (alike : c.Alike c') (ends : ∀ c ∈ text, isLineEnd c = true) (piece : List Char × Marker.Written) :
    (c.take (text ++ piece.1, piece.2)).Alike (c'.take piece) := by
  have trimmed : trimBoth isLineEnd (text ++ piece.1) = trimBoth isLineEnd piece.1 := by
    rw [trimBoth, List.dropWhile_append_of_pos ends]
    rfl
  obtain ⟨startup, segments⟩ := alike
  obtain ⟨before, w⟩ := piece
  unfold Counter.take
  cases mark : w.marker? with
  | none => simpa [mark] using ⟨startup, segments⟩
  | some m =>
    by_cases starts : c'.startup = some m.id
    · simpa [mark, startup, starts] using ⟨rfl, segments⟩
    · simp only [mark, startup, starts, trimmed, ↓reduceIte]
      exact ⟨rfl, by rw [segments]⟩

theorem Alike.takeAll (alike : c.Alike c') (pieces : List (List Char × Marker.Written)) :
    (pieces.foldl Counter.take c).Alike (pieces.foldl Counter.take c') := by
  induction pieces generalizing c c' with
  | nil => exact alike
  | cons piece rest ih =>
    have none : ∀ c ∈ ([] : List Char), isLineEnd c = true := by simp
    exact ih (alike.take none piece)

/-- Nothing has come but the startup prompt, if anything, and line ends. -/
structure Ready (c : Counter) : Prop where
  startup : c.startup = none
  segments : c.segments = []
  carry : ∀ d ∈ c.carry, isLineEnd d = true

/-- A counter that is ready counts an answer as a fresh one does. -/
theorem Ready.feed (ready : c.Ready) {answer : String} (some : (({} : Counter).feed answer).segments ≠ []) :
    (c.feed answer).segments = (({} : Counter).feed answer).segments ∧
      (c.feed answer).carry = (({} : Counter).feed answer).carry := by
  have fresh : ({} : Counter).feed answer =
      { (Marker.split answer.toList).1.foldl Counter.take {} with carry := (Marker.split answer.toList).2 } := rfl
  have fed : c.feed answer = { (Marker.putBefore c.carry (Marker.split answer.toList)).1.foldl Counter.take c with
      carry := (Marker.putBefore c.carry (Marker.split answer.toList)).2 } := by
    rw [Counter.feed, Marker.split_clear ((Marker.plain_lineEnds ready.carry).clear _)]
  have alike : c.Alike {} := ⟨ready.startup, ready.segments⟩
  rw [fresh] at some ⊢
  rw [fed]
  cases cut : Marker.split answer.toList with
  | mk pieces trailing =>
    cases pieces with
    | nil =>
      rw [cut] at some
      exact absurd rfl some
    | cons piece others =>
      rw [Marker.putBefore_cons]
      exact ⟨((alike.take ready.carry piece).takeAll others).segments, rfl⟩

/-- A counter that awaits the startup prompt is ready when it has come. -/
theorem ready_prompt {text : String} (prompt : Prompt id text.toList) : ((awaiting id).feed text).Ready := by
  obtain ⟨⟨unread, w, found, bad, starts⟩, ended⟩ := prompt
  obtain ⟨m, mark, rfl⟩ := Option.map_eq_some_iff.mp starts
  have only : Marker.find text = [m] := by
    have none : unread.filterMap (·.marker?) = [] := List.filterMap_eq_nil_iff.mpr bad
    rw [Marker.find_eq, found, List.filterMap_append, none]
    simp [mark]
  have counts := fed_counts (some m.id) [text]
  rw [show String.join [text] = text by simp, only] at counts
  have ignored : (fed (some m.id) [text]).ignored = true := counts.ignored.mpr ⟨m, rfl, rfl⟩
  have segments := counts.segments
  rw [if_pos ignored] at segments
  exact ⟨counts.startup, List.map_eq_nil_iff.mp segments, ended⟩

theorem ready_lineEnds {text : String} (ends : ∀ c ∈ text.toList, isLineEnd c = true) :
    (({} : Counter).feed text).Ready := by
  rw [Counter.feed, show ({} : Counter).carry = [] from rfl, List.nil_append,
    Marker.split_plain (Marker.plain_lineEnds ends)]
  exact ⟨rfl, rfl, ends⟩

/-- What is still to come of the startup prompt: all of it, or the line ends behind it. -/
def Due (id : Nat) (c : Counter) (text : List Char) : Prop :=
  (c = awaiting id ∧ Prompt id text) ∨ (c = {} ∧ ∀ d ∈ text, isLineEnd d = true)

/-- A counter that has counted nothing does not see how a text is chunked. -/
theorem Due.foldl_feed (due : c.Due id text) (texts : List String) :
    texts.foldl feed c = c.feed (String.join texts) := by
  rcases due with ⟨rfl, -⟩ | ⟨rfl, -⟩
  · exact fed_join (some id) texts
  · exact fed_join none texts

theorem Due.nothing (due : c.Due id text) : c.segments = [] := by
  rcases due with ⟨rfl, -⟩ | ⟨rfl, -⟩
  · rfl
  · rfl

theorem Due.ready {text : String} (due : c.Due id text.toList) : (c.feed text).Ready := by
  rcases due with ⟨rfl, prompt⟩ | ⟨rfl, ends⟩
  · exact ready_prompt prompt
  · exact ready_lineEnds ends

/-- A part of the prompt that comes before the command is accounted for. -/
theorem Due.stale {first : String} (due : c.Due id (first.toList ++ more)) (uncut : Uncut first.toList more) :
    (if (Marker.find first).isEmpty then c else {}).Due id more := by
  rcases due with ⟨rfl, prompt⟩ | ⟨rfl, ends⟩
  · rcases prompt.cut uncut with ⟨none, later⟩ | ⟨some, ends⟩
    · exact .inl ⟨by simp [none], later⟩
    · exact .inr ⟨by simp [some], ends⟩
  · exact .inr ⟨ite_self _, fun d mem => ends d (List.mem_append_right _ mem)⟩

end Counter

/-! ## An answer without delay -/

namespace Exchange

/-- What is heard in one moment is heard in full if it makes the answer complete. -/
theorem conclude_at {x : Exchange} {l : Listening} {t : Nat} {texts : List String} (intime : t ≤ x.timeout)
    (listening : l.quietUntil = if x.complete l.counter then some (t + x.quiet) else none)
    (whole : x.complete (texts.foldl Counter.feed l.counter) = true) :
    x.conclude l (texts.map fun text => (t, some (.output text))) = .ok (texts.foldl Counter.feed l.counter) := by
  induction texts generalizing l with
  | nil =>
    rw [List.foldl_nil] at whole
    rw [if_pos whole] at listening
    rw [List.map_nil, conclude, verdict, listening]
    rfl
  | cons text rest ih =>
    have early : ¬ x.endsAt l < t := by
      rw [endsAt, listening]
      split
      · exact Nat.not_lt.mpr (Nat.le_add_right t x.quiet)
      · exact Nat.not_lt.mpr intime
    rw [List.map_cons, conclude, if_neg early, hear]
    refine ih ?_ whole
    dsimp only
    split
    · rfl
    · next unfinished =>
      have before : ¬ x.complete l.counter = true := fun whole => unfinished (complete_feed whole text)
      rw [listening, if_neg before]

end Exchange

/-- The answer settles a command: it has the expected markers, or an error. -/
def Settles (rules : Rules) (expected : Nat) (answer : String) : Prop :=
  expected ≤ (({} : Counter).feed answer).responses ∨
    ∃ s ∈ (({} : Counter).feed answer).segments, (rules.error? s.output).isSome = true

variable {rules : Rules} {expected : Nat} {answer : String}

/-- An answer that settles a command has a marker. -/
theorem Settles.some (settles : Settles rules expected answer) (waits : 1 ≤ expected) :
    (({} : Counter).feed answer).segments ≠ [] := by
  rcases settles with enough | ⟨s, mem, -⟩
  · exact List.ne_nil_of_length_pos (Nat.lt_of_lt_of_le waits enough)
  · exact List.ne_nil_of_mem mem

/-- A prover that shows no marker at its start, has printed some texts before a command, and prints others at a moment
after it. -/
def delivering (stale heard : List String) (t : Nat) : Contract Unit where
  asks _ q := match q with
    | .start | .drain | .send _ | .listen _ | .publish _ => True
    | _ => False
  answers _ q r _ := match q, r with
    | .start, greeting => ∃ banner, greeting = .ok ⟨none, banner⟩
    | .drain, events => events = stale.map .output
    | .send _, sent => sent = .ok ()
    | .listen _, transcript => transcript = heard.map fun text => (t, some (.output text))
    | _, _ => True

namespace Engine

/-- The process has not shown any marker yet, and may be sent a command. -/
structure AwaitsPrompt (e : Engine) : Prop where
  pending : e.startupPending = true
  free : e.inFlight = false

variable {e : Engine} {stale heard : List String} {rest : String} {t : Nat}

/-- A session that is started without a startup marker awaits its prompt. -/
theorem startSession_awaits (e : Engine) :
    startSession.Leads (delivering stale heard t)
      (fun _ e' _ => e'.AwaitsPrompt ∧ e'.rules = e.rules ∧ e'.settings = e.settings) (fun _ _ _ => False) e () := by
  simp only [startSession, Act.leads_bind, Act.leads_ask]
  refine ⟨trivial, ?_⟩
  rintro _ _ ⟨banner, rfl⟩
  rw [Act.leads_orFail]
  exact ⟨⟨rfl, rfl⟩, rfl, rfl⟩

theorem takeStale_prompt {c : Counter} (due : c.Due e.rules.initialId (String.join (stale ++ [rest])).toList)
    (uncut : UncutAll (stale ++ [rest])) (drained : List String) :
    (takeStale c (stale.map .output)).Leads (delivering drained heard t)
      (fun c' e' _ => e' = e ∧ c'.Due e.rules.initialId rest.toList) (fun _ _ _ => False) e () := by
  induction stale generalizing c with
  | nil => exact ⟨rfl, by simpa using due⟩
  | cons first later ih =>
    simp only [List.map_cons, takeStale, Act.leads_bind, Act.leads_ask]
    refine ⟨trivial, fun _ _ _ => ih ?_ uncut.2⟩
    rw [List.cons_append, String.join_cons, String.toList_append] at due
    exact due.stale uncut.1

theorem exchange_prompt {x : Exchange} {id : Nat} {answer : String} (text : String)
    (due : x.counter.Due id rest.toList) (comes : String.join heard = rest ++ answer) (waits : 1 ≤ x.expected)
    (settles : Settles x.rules x.expected answer) (intime : t ≤ x.timeout) (drained : List String) :
    (exchange text x).Leads (delivering drained heard t)
      (fun c e' _ => e' = e ∧ c.segments = (({} : Counter).feed answer).segments ∧
        c.carry = (({} : Counter).feed answer).carry)
      (fun _ _ _ => False) e () := by
  have whole : heard.foldl Counter.feed x.counter = (x.counter.feed rest).feed answer := by
    rw [due.foldl_feed, comes, Counter.feed_feed]
  have counted := due.ready.feed (settles.some waits)
  rw [← whole] at counted
  have unfinished : ¬ x.complete x.counter = true := by
    have waiting : ¬ x.expected ≤ 0 := by omega
    simp [Exchange.complete, Counter.responses, due.nothing, waiting]
  have complete : x.complete (heard.foldl Counter.feed x.counter) = true := by
    simpa only [Settles, Exchange.complete, Counter.responses, counted.1, Bool.or_eq_true, decide_eq_true_eq,
      List.any_eq_true] using settles
  have concluded := Exchange.conclude_at (l := x.begin) intime (if_neg unfinished).symm complete
  simp only [exchange, Act.leads_bind, Act.leads_ask]
  refine ⟨trivial, ?_⟩
  rintro _ _ rfl
  simp only [Act.leads_orFail, Act.ends_ok]
  refine ⟨trivial, ?_⟩
  rintro _ _ rfl
  rw [concluded]
  exact ⟨rfl, counted⟩

theorem roundTrip_prompt {expected : Nat} {answer : String} (text : String) (awaits : e.AwaitsPrompt)
    (prompt : Prompt e.rules.initialId (String.join (stale ++ [rest])).toList) (uncut : UncutAll (stale ++ [rest]))
    (comes : String.join heard = rest ++ answer) (waits : 1 ≤ expected) (settles : Settles e.rules expected answer)
    (intime : t ≤ e.settings.commandTimeout) :
    (roundTrip text expected).Leads (delivering stale heard t)
      (fun r _ _ => r = .ofCounter e.rules (({} : Counter).feed answer)) (fun _ _ _ => False) e () := by
  unfold roundTrip
  simp only [Act.leads_bind, Act.leads_get, awaits.free, awaits.pending, Bool.false_eq_true, ↓reduceIte, Act.leads_ask]
  refine ⟨trivial, ?_⟩
  rintro _ _ rfl
  apply (takeStale_prompt (.inl ⟨rfl, prompt⟩) uncut stale).mono
  · rintro c e' _ ⟨rfl, due⟩
    simp only [Act.leads_modify, Act.leads_attempt]
    apply (exchange_prompt text due comes waits settles intime stale).mono
    · rintro counter e₁ _ ⟨-, segments, carry⟩
      simp only [Act.leads_bind, Act.leads_modify, Act.leads_pure]
      rw [Response.ofCounter, Response.ofCounter, Counter.trailing, Counter.trailing, segments, carry]
    · exact fun _ _ _ fails => fails.elim
  · exact fun _ _ _ fails => fails.elim

end Engine

/-- A session is started without a startup marker, and prints its prompt in texts that cut no marker, some of them
before the first command and the rest behind it, with the answer, in any chunks of one moment. Then the command is
answered as if there had been no prompt: it has all markers of the answer, also those with the startup id, and no
other. No later command awaits the prompt. -/
theorem startup_prompt_discarded {e : Engine} {stale heard : List String} {rest answer : String} {expected t : Nat}
    (text : String) (awaits : e.AwaitsPrompt)
    (prompt : Prompt e.rules.initialId (String.join (stale ++ [rest])).toList) (uncut : UncutAll (stale ++ [rest]))
    (comes : String.join heard = rest ++ answer) (waits : 1 ≤ expected) (settles : Settles e.rules expected answer)
    (intime : t ≤ e.settings.commandTimeout) :
    (Engine.submit text expected).Leads (delivering stale heard t)
      (fun r e' _ => r = .ofCounter e.rules (({} : Counter).feed answer) ∧ r.markers = Marker.find answer ∧
        e'.startupPending = false)
      (fun _ _ _ => False) e () := by
  have markers : (({} : Counter).feed answer).segments.map (·.marker) = Marker.find answer := by
    have counts := Counter.fed_counts none [answer]
    rw [show String.join [answer] = answer by simp] at counts
    have seen : ¬ (Counter.fed none [answer]).ignored = true := by
      rw [counts.ignored]
      rintro ⟨m, -, none⟩
      cases none
    have segments := counts.segments
    rwa [if_neg seen] at segments
  simp only [Engine.submit, Act.leads_bind, Act.leads_attempt]
  apply (Engine.roundTrip_prompt text awaits prompt uncut comes waits settles intime).mono
  · rintro r e' _ rfl
    simp only [Act.leads_modify, Act.leads_pure]
    refine ⟨trivial, markers, ?_⟩
    have some := settles.some waits
    simp [Response.ofCounter, some]
  · exact fun _ _ _ fails => fails.elim

/-- A session is started; its banner is drained, and its marker comes with the answer, cut in two. The answer's marker
repeats the startup id. -/
theorem repeated_id_counted :
    (Engine.startSession >>= fun _ => Engine.submit "a." 1).Leads
      (delivering ["banner\n"] ["[0|ch", "eck]>\n+ a.\n[0|check]>\n"] 5)
      (fun r e' _ => r = ⟨[⟨"+ a.", ⟨0, "check"⟩⟩], none⟩ ∧ e'.startupPending = false)
      (fun _ _ _ => False) Desk.standard.engine () := by
  have prompt : Prompt 0 (String.join ["banner\n", "[0|check]>\n"]).toList :=
    ⟨⟨[], ⟨['0'], "check".toList⟩, by decide +kernel, by simp, rfl⟩, List.all_eq_true.mp (by decide +kernel)⟩
  have line : ∀ text : String, text.toList.getLast? = some '\n' → Marker.LineEnds text.toList := by
    intro text last c mem
    rw [last] at mem
    exact (Option.mem_some.mp mem).symm
  have uncut : UncutAll ["banner\n", "[0|check]>\n"] :=
    ⟨Marker.uncut_line (line _ (by decide)) _, Marker.uncut_line (line _ (by decide)) _, trivial⟩
  rw [Act.leads_bind]
  apply (Engine.startSession_awaits _).mono
  · rintro _ e _ ⟨awaits, rules, settings⟩
    have settles : Settles e.rules 1 "+ a.\n[0|check]>\n" := .inl (by decide +kernel)
    have prompt' : Prompt e.rules.initialId (String.join ["banner\n", "[0|check]>\n"]).toList := by rwa [rules]
    apply (@startup_prompt_discarded e ["banner\n"] _ "[0|check]>\n" _ 1 5 "a." awaits prompt' uncut (by decide)
      (Nat.le_refl 1) settles (by rw [settings]; decide +kernel)).mono
    · rintro r e' _ ⟨rfl, -, seen⟩
      rw [rules]
      exact ⟨by decide +kernel, seen⟩
    · exact fun _ _ _ fails => fails
  · exact fun _ _ _ fails => fails.elim

end Frontier
