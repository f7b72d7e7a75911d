import Frontier.Exchange
import Mathlib.Data.List.Basic

/-!
# When an exchange ends

An exchange is read off the times of its events. The answer is complete with the first output after which enough markers
have come, or an error has; the exchange ends when nothing was printed for a while after that. What is printed within
such a while of the last output belongs to the answer, also past the timeout. An exit ends the exchange at once, and what
the process complains of has no part in it.
-/

namespace Frontier

theorem Counter.foldl_take_segments (found : List (List Char × Marker.Written)) (c : Counter) :
    c.segments <+: (found.foldl Counter.take c).segments := by
  induction found generalizing c with
  | nil => exact List.prefix_rfl
  | cons piece rest ih =>
    refine List.IsPrefix.trans ?_ (ih _)
    obtain ⟨text, written⟩ := piece
    cases marker : written.marker? with
    | none => simp [Counter.take, marker]
    | some m =>
      simp only [Counter.take, marker]
      split
      · exact List.prefix_rfl
      · exact List.prefix_append _ _

namespace Exchange

/-! ## Events by their times -/

/-- What is printed, with the times. -/
def outputs : List (Nat × Event) → List (Nat × String)
  | [] => []
  | (t, .output text) :: rest => (t, text) :: outputs rest
  | _ :: rest => outputs rest

/-- When the process exits, and its code. -/
def exit? : List (Nat × Event) → Option (Nat × Option Int)
  | [] => none
  | (t, .exited code _) :: _ => some (t, code)
  | _ :: rest => exit? rest

/-- When the first output comes that makes an answer complete, and what is printed after it. -/
def completes? (x : Exchange) (c : Counter) : List (Nat × String) → Option (Nat × List (Nat × String))
  | [] => none
  | (t, text) :: rest => if x.complete (c.feed text) then some (t, rest) else x.completes? (c.feed text) rest

/-- When the last output of a chain comes that begins at `u`, each within a while of the one before. -/
def chainEnd (quiet u : Nat) : List (Nat × String) → Nat
  | [] => u
  | (t, _) :: rest => if t ≤ u + quiet then chainEnd quiet t rest else u

/-- When the last output of the answer comes, if the answer is complete in time. -/
def lastOutput? (x : Exchange) (c : Counter) (outs : List (Nat × String)) : Option Nat :=
  (x.completes? c outs).bind fun (t, later) => if t ≤ x.timeout then some (chainEnd x.quiet t later) else none

/-- The counter that has been fed all that is printed up to a time. -/
def fedUpTo (c : Counter) (u : Nat) (outs : List (Nat × String)) : Counter :=
  (outs.filter (·.1 ≤ u)).foldl (fun c o => c.feed o.2) c

/-- How and when the exchange ends if the process does not exit before. -/
def settled (x : Exchange) (c : Counter) (outs : List (Nat × String)) : Except Fault Counter × Nat :=
  match x.lastOutput? c outs with
  | some u => (.ok (fedUpTo c u outs), u + x.quiet)
  | none => (.error (.timeout x.timeout), x.timeout)

/-- An exit ends an exchange that has not ended before. -/
def interrupted (exit : Option (Nat × Option Int)) (ending : Except Fault Counter × Nat) : Except Fault Counter × Nat :=
  match exit with
  | some (t, code) => if t ≤ ending.2 then (.error (.exited code), t) else ending
  | none => ending

/-- How and when the exchange ends in which these events come. -/
def outcome (x : Exchange) (es : List (Nat × Event)) : Except Fault Counter × Nat :=
  interrupted (exit? es) (x.settled x.counter (outputs es))

/-! ## The listener's reading -/

/-- When the exchange ends if exactly the rest of a transcript is heard. -/
def moment (x : Exchange) (l : Listening) : Transcript → Nat
  | [] => x.endsAt l
  | (time, heard) :: rest =>
    if x.endsAt l < time then x.endsAt l
    else match x.hear l time heard with
      | .ok l => x.moment l rest
      | .error _ => time

/-- How and when the exchange ends if these events come. -/
def ending (x : Exchange) (l : Listening) (es : List (Nat × Event)) : Except Fault Counter × Nat :=
  (x.conclude l (es.map fun p => (p.1, some p.2)), x.moment l (es.map fun p => (p.1, some p.2)))

variable {x : Exchange} {c : Counter} {l : Listening} {es : List (Nat × Event)} {outs : List (Nat × String)} {t u : Nat}

theorem ending_late {e : Event} (late : x.endsAt l < t) : x.ending l ((t, e) :: es) = (x.verdict l, x.endsAt l) := by
  simp [ending, conclude, moment, late]

theorem ending_hears {e : Event} {l' : Listening} (intime : ¬ x.endsAt l < t) (hears : x.hear l t (some e) = .ok l') :
    x.ending l ((t, e) :: es) = x.ending l' es := by
  simp [ending, conclude, moment, intime, hears]

theorem ending_fails {e : Event} {fault : Fault} (intime : ¬ x.endsAt l < t)
    (fails : x.hear l t (some e) = .error fault) : x.ending l ((t, e) :: es) = (.error fault, t) := by
  simp [ending, conclude, moment, intime, fails]

theorem hear_endsAt {e : Event} {l' : Listening} (intime : ¬ x.endsAt l < t) (hears : x.hear l t (some e) = .ok l') :
    t ≤ x.endsAt l' := by
  cases e with
  | output text =>
    cases hears
    unfold endsAt
    dsimp only
    split
    · exact Nat.le_add_right t x.quiet
    · exact Nat.not_lt.mp intime
  | complaint line =>
    cases hears
    exact Nat.not_lt.mp intime
  | exited code expected => cases hears

/-! ## Orders of times -/

/-- The times do not run backwards, from a time on. -/
def Paced : Nat → List (Nat × Event) → Prop
  | _, [] => True
  | since, (t, _) :: rest => since ≤ t ∧ Paced t rest

theorem Paced.since {t' : Nat} (paced : Paced t es) (le : t' ≤ t) : Paced t' es := by
  cases es with
  | nil => trivial
  | cons p rest => exact ⟨Nat.le_trans le paced.1, paced.2⟩

theorem Paced.outputs (paced : Paced t es) : ∀ o ∈ outputs es, t ≤ o.1 := by
  intro o mem
  fun_induction Exchange.outputs es generalizing t with
  | case1 => cases mem
  | case2 t' text rest ih =>
    rcases List.mem_cons.mp mem with rfl | later
    · exact paced.1
    · exact Nat.le_trans paced.1 (ih paced.2 later)
  | case3 p rest other ih => exact Nat.le_trans paced.1 (ih paced.2 mem)

theorem Paced.exit? {code : Option Int} (paced : Paced t es) (exits : exit? es = some (u, code)) : t ≤ u := by
  fun_induction Exchange.exit? es generalizing t with
  | case1 => cases exits
  | case2 t' code' expected rest =>
    cases exits
    exact paced.1
  | case3 p rest other ih => exact Nat.le_trans paced.1 (ih paced.2 exits)

theorem le_chainEnd (quiet : Nat) (paced : Paced u es) : u ≤ chainEnd quiet u (outputs es) := by
  fun_induction outputs es generalizing u with
  | case1 => exact Nat.le_refl u
  | case2 t text rest ih =>
    rw [chainEnd]
    split
    · exact Nat.le_trans paced.1 (ih paced.2)
    · exact Nat.le_refl u
  | case3 p rest other ih => exact ih (paced.2.since paced.1)

theorem chainEnd_late (late : ∀ o ∈ outs, u + x.quiet < o.1) : chainEnd x.quiet u outs = u := by
  cases outs with
  | nil => rfl
  | cons o rest => exact if_neg (Nat.not_le.mpr (late o List.mem_cons_self))

theorem fedUpTo_late (late : ∀ o ∈ outs, u < o.1) : fedUpTo c u outs = c := by
  have none : outs.filter (·.1 ≤ u) = [] := by
    rw [List.filter_eq_nil_iff]
    intro o mem
    simpa using late o mem
  rw [fedUpTo, none]
  rfl

theorem fedUpTo_cons (le : t ≤ u) (text : String) : fedUpTo c u ((t, text) :: outs) = fedUpTo (c.feed text) u outs := by
  rw [fedUpTo, List.filter_cons_of_pos (by simpa using le)]
  rfl

theorem interrupted_late {exit : Option (Nat × Option Int)} {ending : Except Fault Counter × Nat}
    (late : ∀ t code, exit = some (t, code) → ending.2 < t) : interrupted exit ending = ending := by
  match exit with
  | none => rfl
  | some (t, code) => exact if_neg (Nat.not_le.mpr (late t code rfl))

/-! ## A complete answer -/

theorem complete_feed (whole : x.complete c = true) (chunk : String) : x.complete (c.feed chunk) = true := by
  have more : c.segments <+: (c.feed chunk).segments := Counter.foldl_take_segments _ c
  simp only [complete, Bool.or_eq_true, List.any_eq_true] at whole ⊢
  rcases whole with enough | ⟨s, mem, error⟩
  · exact .inl (decide_eq_true (Nat.le_trans (of_decide_eq_true enough) more.length_le))
  · exact .inr ⟨s, more.subset mem, error⟩

/-- From a complete answer on, the exchange goes on to the end of the chain. -/
theorem ending_quiet (whole : x.complete c = true) (paced : Paced u es) :
    x.ending ⟨c, some (u + x.quiet)⟩ es = interrupted (exit? es)
      (.ok (fedUpTo c (chainEnd x.quiet u (outputs es)) (outputs es)), chainEnd x.quiet u (outputs es) + x.quiet) := by
  induction es generalizing c u with
  | nil => rfl
  | cons p rest ih =>
    obtain ⟨t, e⟩ := p
    -- What comes after the end comes too late for the chain as well, and so does the exit.
    by_cases late : u + x.quiet < t
    · have after : Paced t ((t, e) :: rest) := ⟨Nat.le_refl t, paced.2⟩
      have printed : ∀ o ∈ outputs ((t, e) :: rest), u + x.quiet < o.1 :=
        fun o mem => Nat.lt_of_lt_of_le late (after.outputs o mem)
      rw [ending_late late, chainEnd_late printed, interrupted_late, fedUpTo_late]
      · rfl
      · exact fun o mem => Nat.lt_of_le_of_lt (Nat.le_add_right _ _) (printed o mem)
      · exact fun t' code exits => Nat.lt_of_lt_of_le late (after.exit? exits)
    have intime : ¬ x.endsAt ⟨c, some (u + x.quiet)⟩ < t := late
    cases e with
    | output text =>
      have whole' := complete_feed whole text
      have hears : x.hear ⟨c, some (u + x.quiet)⟩ t (some (.output text)) = .ok ⟨c.feed text, some (t + x.quiet)⟩ := by
        simp [hear, whole']
      have chain : chainEnd x.quiet u (outputs ((t, .output text) :: rest)) = chainEnd x.quiet t (outputs rest) :=
        if_pos (Nat.not_lt.mp late)
      rw [ending_hears intime hears, ih whole' paced.2, chain, outputs, fedUpTo_cons (le_chainEnd _ paced.2), exit?]
      simp
    | complaint line =>
      rw [ending_hears intime rfl, ih whole (paced.2.since paced.1)]
      rfl
    | exited code expected =>
      have within : t ≤ chainEnd x.quiet u (outputs rest) + x.quiet :=
        Nat.le_trans (Nat.not_lt.mp late) (Nat.add_le_add_right (le_chainEnd _ (paced.2.since paced.1)) _)
      rw [ending_fails intime rfl]
      exact (if_pos within).symm

/-! ## The whole exchange -/

theorem lastOutput?_whole {text : String} (whole : x.complete (c.feed text) = true) :
    x.lastOutput? c ((t, text) :: outs) = if t ≤ x.timeout then some (chainEnd x.quiet t outs) else none := by
  rw [lastOutput?, completes?, if_pos whole]
  rfl

theorem lastOutput?_open {text : String} (unfinished : ¬ x.complete (c.feed text) = true) :
    x.lastOutput? c ((t, text) :: outs) = x.lastOutput? (c.feed text) outs := by
  rw [lastOutput?, completes?, if_neg unfinished]
  rfl

theorem lastOutput?_late (late : ∀ o ∈ outs, x.timeout < o.1) : x.lastOutput? c outs = none := by
  induction outs generalizing c with
  | nil => rfl
  | cons o rest ih =>
    obtain ⟨first, others⟩ := List.forall_mem_cons.mp late
    by_cases whole : x.complete (c.feed o.2) = true
    · rw [lastOutput?_whole whole, if_neg (Nat.not_le.mpr first)]
    · rw [lastOutput?_open whole, ih others]

theorem le_lastOutput? (paced : Paced t es) (lasts : x.lastOutput? c (outputs es) = some u) : t ≤ u := by
  fun_induction outputs es generalizing t c with
  | case1 => cases lasts
  | case2 t' text rest ih =>
    by_cases whole : x.complete (c.feed text) = true
    · rw [lastOutput?_whole whole] at lasts
      split at lasts
      · cases lasts
        exact Nat.le_trans paced.1 (le_chainEnd _ paced.2)
      · cases lasts
    · rw [lastOutput?_open whole] at lasts
      exact Nat.le_trans paced.1 (ih paced.2 lasts)
  | case3 p rest other ih => exact ih (paced.2.since paced.1) lasts

theorem settled_open {text : String} (unfinished : ¬ x.complete (c.feed text) = true) (paced : Paced t es) :
    x.settled c ((t, text) :: outputs es) = x.settled (c.feed text) (outputs es) := by
  unfold settled
  rw [lastOutput?_open unfinished]
  cases lasts : x.lastOutput? (c.feed text) (outputs es) with
  | none => rfl
  | some u => simp only [fedUpTo_cons (le_lastOutput? paced lasts)]

theorem settled_whole {text : String} (whole : x.complete (c.feed text) = true) (intime : t ≤ x.timeout)
    (paced : Paced t es) : x.settled c ((t, text) :: outputs es) =
      (.ok (fedUpTo (c.feed text) (chainEnd x.quiet t (outputs es)) (outputs es)),
        chainEnd x.quiet t (outputs es) + x.quiet) := by
  unfold settled
  rw [lastOutput?_whole whole, if_pos intime]
  simp only [fedUpTo_cons (le_chainEnd _ paced)]

theorem le_settled (paced : Paced t es) (intime : t ≤ x.timeout) : t ≤ (x.settled c (outputs es)).2 := by
  unfold settled
  cases lasts : x.lastOutput? c (outputs es) with
  | none => exact intime
  | some u => exact Nat.le_trans (le_lastOutput? paced lasts) (Nat.le_add_right _ _)

theorem ending_open (paced : Paced t es) :
    x.ending ⟨c, none⟩ es = interrupted (exit? es) (x.settled c (outputs es)) := by
  induction es generalizing c t with
  | nil => rfl
  | cons p rest ih =>
    obtain ⟨t, e⟩ := p
    by_cases late : x.timeout < t
    · have after : Paced t ((t, e) :: rest) := ⟨Nat.le_refl t, paced.2⟩
      have printed : ∀ o ∈ outputs ((t, e) :: rest), x.timeout < o.1 :=
        fun o mem => Nat.lt_of_lt_of_le late (after.outputs o mem)
      have settles : x.settled c (outputs ((t, e) :: rest)) = (.error (.timeout x.timeout), x.timeout) := by
        rw [settled, lastOutput?_late printed]
      rw [ending_late late, settles, interrupted_late]
      · rfl
      · exact fun t' code exits => Nat.lt_of_lt_of_le late (after.exit? exits)
    have intime : ¬ x.endsAt ⟨c, none⟩ < t := late
    cases e with
    | output text =>
      by_cases whole : x.complete (c.feed text) = true
      · have hears : x.hear ⟨c, none⟩ t (some (.output text)) = .ok ⟨c.feed text, some (t + x.quiet)⟩ := by
          simp [hear, whole]
        rw [ending_hears intime hears, ending_quiet whole paced.2, outputs, exit?,
          settled_whole whole (Nat.not_lt.mp late) paced.2]
        simp
      · have hears : x.hear ⟨c, none⟩ t (some (.output text)) = .ok ⟨c.feed text, none⟩ := by
          simp [hear, whole]
        rw [ending_hears intime hears, ih paced.2, outputs, exit?, settled_open whole paced.2]
        simp
    | complaint line =>
      rw [ending_hears intime rfl, ih paced.2]
      rfl
    | exited code expected =>
      rw [ending_fails intime rfl]
      exact (if_pos (le_settled paced.2 (Nat.not_lt.mp late))).symm

/-- The listener ends the exchange as the times of the events say. -/
theorem ending_begin (paced : Paced 0 es) : x.ending x.begin es = x.outcome es := ending_open paced

/-! ## Enough markers -/

theorem conclude_complete {heard : Transcript} (sofar : l.quietUntil.isSome = true → x.complete l.counter = true)
    (concluded : x.conclude l heard = .ok c) : x.complete c = true := by
  have verdict : ∀ {l : Listening}, (l.quietUntil.isSome = true → x.complete l.counter = true) →
      x.verdict l = .ok c → x.complete c = true := by
    intro l sofar ended
    unfold Exchange.verdict at ended
    split at ended
    · next quiet =>
      cases ended
      exact sofar quiet
    · cases ended
  fun_induction conclude x l heard with
  | case1 l => exact verdict sofar concluded
  | case2 l time heard rest late => exact verdict sofar concluded
  | case3 l time heard rest early l' heard' ih =>
    apply ih _ concluded
    cases heard with
    | none => cases heard'
    | some event =>
      cases event with
      | output chunk =>
        cases heard'
        intro quiet
        dsimp only at quiet ⊢
        split at quiet
        · next whole => exact whole
        · exact complete_feed (sofar quiet) chunk
      | complaint line =>
        cases heard'
        exact sofar
      | exited code expected => cases heard'
  | case4 l time heard rest early fault heard' => cases concluded

theorem error?_of_firstError {rules : Rules} {trailing : String} {index : Nat} {ss : List Segment}
    (fine : Response.firstError rules trailing index ss = none) : ∀ s ∈ ss, rules.error? s.output = none := by
  induction ss generalizing index with
  | nil => simp
  | cons s rest ih =>
    rw [Response.firstError] at fine
    split at fine
    · cases fine
    · next none => exact List.forall_mem_cons.mpr ⟨none, ih fine⟩

/-- An answer without an error has as many segments as markers were expected. -/
theorem enough_segments {heard : Transcript} (concluded : x.conclude x.begin heard = .ok c)
    (fine : (Response.ofCounter x.rules c).error = none) :
    x.expected ≤ (Response.ofCounter x.rules c).segments.length := by
  have whole := conclude_complete (by simp [begin]) concluded
  simp only [complete, Bool.or_eq_true, List.any_eq_true] at whole
  rcases whole with enough | ⟨s, mem, error⟩
  · exact of_decide_eq_true enough
  · rw [error?_of_firstError fine s mem] at error
    cases error

end Exchange

end Frontier
