import Frontier.Proofs.Bookkeeping
import Mathlib.Data.List.Perm.Subperm

/-!
# What an operation costs

Where an operation fails, it falls back on another way, and ways nest: a motion forward may begin with a recovery whose
batch is rejected, taken back in vain and sent again to another process, before the same happens to the batch of the
motion. But no way is taken twice. What each part may cost is said once, in starts, commands to undo and statements
sent, and the costs of parts add up, whatever the prover answers.
-/

namespace Frontier
variable {α β : Type}

/-! ## Commands and their costs -/

/-- What a command is sent for. -/
inductive Errand where
  /-- Statements are to be verified. -/
  | run (ss : List Statement)
  /-- What was verified after a state is to be undone. -/
  | undo (state : Nat)

namespace Errand

def text (rules : Rules) : Errand → String
  | run ss => Engine.batchText ss
  | undo state => rules.undo state

def statements : Errand → List Statement
  | run ss => ss
  | undo _ => []

def undoes : Errand → Bool
  | run _ => false
  | undo _ => true

@[simp] theorem statements_run (ss : List Statement) : (run ss).statements = ss := rfl

@[simp] theorem statements_undo (state : Nat) : (undo state).statements = [] := rfl

@[simp] theorem undoes_run (ss : List Statement) : (run ss).undoes = false := rfl

@[simp] theorem undoes_undo (state : Nat) : (undo state).undoes = true := rfl

/-- Statements are sent as they stand in a document, at least one of them. -/
def Proper (doc : String) : Errand → Prop
  | run ss => ss ≠ [] ∧ ss <:+: Statement.all doc
  | undo _ => True

end Errand

/-- How often a process may be started and commands to undo may be sent, and which statements may be sent, each as
often as it is listed. -/
structure Allowance where
  starts : Nat
  undos : Nat
  runs : List Statement

namespace Allowance

instance : Zero Allowance := ⟨⟨0, 0, []⟩⟩

instance : Add Allowance := ⟨fun a b => ⟨a.starts + b.starts, a.undos + b.undos, a.runs ++ b.runs⟩⟩

instance : LE Allowance := ⟨fun a b =>
  a.starts ≤ b.starts ∧ a.undos ≤ b.undos ∧ ∀ s, a.runs.count s ≤ b.runs.count s⟩

variable {a a' b b' : Allowance}

theorem le_refl (a : Allowance) : a ≤ a := ⟨Nat.le_refl _, Nat.le_refl _, fun _ => Nat.le_refl _⟩

theorem le_trans {c : Allowance} (first : a ≤ b) (second : b ≤ c) : a ≤ c :=
  ⟨Nat.le_trans first.1 second.1, Nat.le_trans first.2.1 second.2.1,
    fun s => Nat.le_trans (first.2.2 s) (second.2.2 s)⟩

theorem add_le_add (first : a ≤ a') (second : b ≤ b') : a + b ≤ a' + b' := by
  refine ⟨Nat.add_le_add first.1 second.1, Nat.add_le_add first.2.1 second.2.1, fun s => ?_⟩
  show (a.runs ++ b.runs).count s ≤ (a'.runs ++ b'.runs).count s
  rw [List.count_append, List.count_append]
  exact Nat.add_le_add (first.2.2 s) (second.2.2 s)

theorem zero_add (a : Allowance) : 0 + a = a := by
  show (⟨0 + a.starts, 0 + a.undos, [] ++ a.runs⟩ : Allowance) = a
  rw [Nat.zero_add, Nat.zero_add, List.nil_append]

theorem add_zero (a : Allowance) : a + 0 = a := by
  show (⟨a.starts, a.undos, a.runs ++ []⟩ : Allowance) = a
  rw [List.append_nil]

@[simp] theorem mk_add (m n m' n' : Nat) (xs ys : List Statement) :
    (⟨m, n, xs⟩ + ⟨m', n', ys⟩ : Allowance) = ⟨m + m', n + n', xs ++ ys⟩ := rfl

theorem mk_le {m n m' n' : Nat} {xs ys : List Statement} (starts : m ≤ m') (undos : n ≤ n')
    (runs : ∀ s, xs.count s ≤ ys.count s) : (⟨m, n, xs⟩ : Allowance) ≤ ⟨m', n', ys⟩ := ⟨starts, undos, runs⟩

theorem zero_le (a : Allowance) : 0 ≤ a := ⟨Nat.zero_le _, Nat.zero_le _, fun _ => Nat.zero_le _⟩

theorem le_add_right (a b : Allowance) : a ≤ a + b := by
  refine ⟨Nat.le_add_right _ _, Nat.le_add_right _ _, fun s => ?_⟩
  show a.runs.count s ≤ (a.runs ++ b.runs).count s
  rw [List.count_append]
  exact Nat.le_add_right _ _

/-- What some starts and commands take of an allowance. -/
def bill (starts : Nat) (errands : List Errand) : Allowance :=
  ⟨starts, errands.countP (·.undoes), errands.flatMap (·.statements)⟩

theorem bill_append (m n : Nat) (xs ys : List Errand) : bill (m + n) (xs ++ ys) = bill m xs + bill n ys := by
  rw [bill, List.countP_append, List.flatMap_append]
  rfl

end Allowance

/-- How often a process was started, and the commands that were sent. -/
structure Cost where
  starts : Nat := 0
  sent : List String := []

/-- What was spent is within an allowance. -/
def Spent (doc : String) (rules : Rules) (a : Allowance) (c c' : Cost) : Prop :=
  ∃ starts errands, c' = ⟨c.starts + starts, c.sent ++ errands.map (·.text rules)⟩ ∧
    Allowance.bill starts errands ≤ a ∧ ∀ errand ∈ errands, errand.Proper doc

namespace Spent
variable {doc : String} {rules : Rules} {a b : Allowance} {c c' c'' : Cost}

theorem nothing (doc : String) (rules : Rules) (a : Allowance) (c : Cost) : Spent doc rules a c c :=
  ⟨0, [], by simp, Allowance.zero_le a, by simp⟩

theorem mono (spent : Spent doc rules a c c') (le : a ≤ b) : Spent doc rules b c c' := by
  obtain ⟨starts, errands, same, within, proper⟩ := spent
  exact ⟨starts, errands, same, Allowance.le_trans within le, proper⟩

theorem trans (first : Spent doc rules a c c') (second : Spent doc rules b c' c'') : Spent doc rules (a + b) c c'' := by
  obtain ⟨m, xs, rfl, within, proper⟩ := first
  obtain ⟨n, ys, rfl, within', proper'⟩ := second
  refine ⟨m + n, xs ++ ys, by simp [Nat.add_assoc], ?_, ?_⟩
  · rw [Allowance.bill_append]
    exact Allowance.add_le_add within within'
  · intro errand mem
    rcases List.mem_append.mp mem with left | right
    · exact proper errand left
    · exact proper' errand right

theorem errand {e : Errand} (proper : e.Proper doc) (rules : Rules) (c : Cost) :
    Spent doc rules (.bill 0 [e]) c { c with sent := c.sent ++ [e.text rules] } :=
  ⟨0, [e], rfl, Allowance.le_refl _, by simpa using proper⟩

end Spent

/-- Keeps count of starts and commands. Anything may be asked, and any answer may come. -/
def costing : Watch Cost where
  start := {}
  after c q _ :=
    match q with
    | .start => { c with starts := c.starts + 1 }
    | .send text => { c with sent := c.sent ++ [text] }
    | _ => c
  Admits _ _ _ := True
  Allows _ _ := True

theorem costing_attends : costing.Attends fun _ => True where
  allows _ _ := trivial
  started _ := trivial
  sent _ := trivial
  running _ _ := rfl
  publish _ _ _ := rfl
  time _ _ := rfl
  drain _ _ := rfl
  unheard _ := rfl

/-- Whether an intent is to move the end of the verified region, now at `x`, forward to a cursor. -/
def Intent.ahead (doc : String) (x : Nat) : Intent → Bool
  | .goToCursor cursor => x < (outlineOf doc 0).boundaryAt cursor
  | _ => false

/-! ## Acts -/

/-- An act stays within an allowance, whether it returns or fails. -/
def Act.Costs (doc : String) (rules : Rules) (a : Allowance) (act : Act α) (e : Engine) (c : Cost) : Prop :=
  act.Leads costing.contract (fun _ e' c' => e'.rules = rules ∧ Spent doc rules a c c')
    (fun _ e' c' => e'.rules = rules ∧ Spent doc rules a c c') e c

namespace Act
variable {doc : String} {rules : Rules} {a b : Allowance} {e : Engine} {c : Cost}

theorem Costs.mono {act : Act α} (costs : act.Costs doc rules a e c) (le : a ≤ b) : act.Costs doc rules b e c :=
  Leads.mono costs (fun _ _ _ spent => ⟨spent.1, spent.2.mono le⟩) (fun _ _ _ spent => ⟨spent.1, spent.2.mono le⟩)

/-- The costs of two acts add up; what the second costs may depend on where the first leads. -/
theorem Costs.bind {act : Act α} {f : α → Act β} {ok : α → Engine → Cost → Prop}
    {failed : Fault → Engine → Cost → Prop} (costs : act.Costs doc rules a e c)
    (leads : act.Leads costing.contract ok failed e c)
    (next : ∀ x e' c', ok x e' c' → e'.rules = rules → (f x).Costs doc rules b e' c') :
    (act >>= f).Costs doc rules (a + b) e c := by
  unfold Costs
  rw [leads_bind]
  apply (Leads.and costs leads).mono
  · rintro x e' c' ⟨⟨same, spent⟩, goes⟩
    refine Leads.mono (next x e' c' goes same) ?_ ?_
    · rintro _ e'' c'' ⟨same', spent'⟩
      exact ⟨same', spent.trans spent'⟩
    · rintro _ e'' c'' ⟨same', spent'⟩
      exact ⟨same', spent.trans spent'⟩
  · rintro fault e' c' ⟨⟨same, spent⟩, -⟩
    exact ⟨same, spent.mono (Allowance.le_add_right a b)⟩

/-- An act that is followed by one without costs. -/
theorem Costs.then {act : Act α} {f : α → Act β} (costs : act.Costs doc rules a e c)
    (next : ∀ x e' c', e'.rules = rules → (f x).Costs doc rules 0 e' c') : (act >>= f).Costs doc rules a e c := by
  rw [← Allowance.add_zero a]
  exact costs.bind costs fun x e' c' _ same => next x e' c' same

theorem costs_pure (x : α) (a : Allowance) (same : e.rules = rules) : (pure x : Act α).Costs doc rules a e c :=
  ⟨same, .nothing doc rules a c⟩

theorem costs_throw (fault : Fault) (a : Allowance) (same : e.rules = rules) :
    (throw fault : Act α).Costs doc rules a e c :=
  ⟨same, .nothing doc rules a c⟩

theorem costs_modify (f : Engine → Engine) (a : Allowance) (same : (f e).rules = rules) :
    (modify f : Act PUnit).Costs doc rules a e c :=
  ⟨same, .nothing doc rules a c⟩

@[simp] theorem costs_get_bind {f : Engine → Act α} :
    (get >>= f).Costs doc rules a e c ↔ (f e).Costs doc rules a e c := by
  simp only [Costs, leads_bind, leads_get]

@[simp] theorem costs_modify_bind {g : Engine → Engine} {f : PUnit → Act α} :
    (modify g >>= f).Costs doc rules a e c ↔ (f ⟨⟩).Costs doc rules a (g e) c := by
  simp only [Costs, leads_bind, leads_modify]

theorem Costs.attempt {act : Act α} (costs : act.Costs doc rules a e c) : act.attempt.Costs doc rules a e c := by
  unfold Costs
  rw [leads_attempt]
  exact costs

end Act

namespace Engine
open Act
variable {doc : String} {rules : Rules} {e : Engine} {c : Cost} {k n : Nat}

theorem Answered.spent (errand : Errand) {expected : Nat} {r : Response} {e' : Engine} {c' : Cost}
    (answered : Answered costing (errand.text rules) expected e c r e' c') (proper : errand.Proper doc)
    (same : e.rules = rules) : e'.rules = rules ∧ Spent doc rules (.bill 0 [errand]) c c' := by
  obtain ⟨x, heard, counter, -, -, -, -, rfl⟩ := answered.heard
  exact ⟨answered.region.rules.trans same, .errand proper rules c⟩

theorem Failed.spent (errand : Errand) {own : Fault → Prop} {fault : Fault} {e' : Engine} {c' : Cost}
    (failed : Failed costing own (errand.text rules) e c fault e' c') (proper : errand.Proper doc)
    (same : e.rules = rules) : e'.rules = rules ∧ Spent doc rules (.bill 0 [errand]) c c' := by
  have tried : ∀ {c₁}, Tried costing (errand.text rules) c c₁ → Spent doc rules (.bill 0 [errand]) c c₁ := by
    rintro c₁ (rfl | ⟨sent, rfl⟩)
    · exact .nothing doc rules _ _
    · exact .errand proper rules c
  refine ⟨failed.region.rules.trans same, ?_⟩
  rcases failed.state with ⟨-, once⟩ | ⟨-, c₁, once, rfl⟩
  · exact tried once
  · exact tried once

theorem submit_costs (errand : Errand) (proper : errand.Proper doc) (expected : Nat) (same : e.rules = rules) :
    (submit (errand.text rules) expected).Costs doc rules (.bill 0 [errand]) e c :=
  (submit_attended costing_attends (errand.text rules) expected e c).mono
    (fun _ _ _ answered => answered.spent errand proper same) (fun _ _ _ failed => failed.spent errand proper same)

theorem run_single (s : Statement) : (Errand.run [s]).text rules = s.text := by
  simp [Errand.text, batchText]

theorem proper_single {s : Statement} (mem : s ∈ Statement.all doc) : (Errand.run [s]).Proper doc := by
  obtain ⟨front, back, same⟩ := List.append_of_mem mem
  exact ⟨List.cons_ne_nil s [], front, back, by rw [same, List.append_assoc, List.singleton_append]⟩

theorem executeSingle_costs {s : Statement} (mem : s ∈ Statement.all doc) (same : e.rules = rules) :
    (executeSingle s).Costs doc rules ⟨0, 0, [s]⟩ e c := by
  have submits := submit_costs (c := c) (.run [s]) (proper_single mem) 1
    (show ({ e with undo := e.undo.announce e.proved } : Engine).rules = rules from same)
  rw [run_single] at submits
  simp only [executeSingle, costs_get_bind, costs_modify_bind]
  apply submits.then
  intro response e' c' same'
  cases response.error with
  | some error => exact costs_throw _ _ same'
  | none => exact costs_modify _ _ same'

theorem executeBatch_costs {ss : List Statement} (proper : (Errand.run ss).Proper doc) (same : e.rules = rules) :
    (executeBatch ss).Costs doc rules ⟨0, 0, ss⟩ e c := by
  have submits := submit_costs (c := c) (.run ss) proper ss.length same
  have price : Allowance.bill 0 [.run ss] = ⟨0, 0, ss⟩ := by simp [Allowance.bill]
  rw [price] at submits
  unfold executeBatch
  apply submits.then
  intro response e' c' same'
  by_cases rejected : response.error.isSome = true
  · rw [if_pos rejected]
    exact costs_pure _ _ same'
  · rw [if_neg rejected]
    exact costs_pure _ _ same'

theorem rewindBatch_costs (before state : Nat) (same : e.rules = rules) :
    (rewindBatch before state).Costs doc rules ⟨0, 1, []⟩ e c := by
  unfold rewindBatch
  by_cases there : state = before
  · rw [if_pos there]
    exact costs_pure _ _ same
  rw [if_neg there, costs_get_bind]
  by_cases valid : (!e.undo.valid) = true
  · rw [if_pos valid]
    exact costs_pure _ _ same
  rw [if_neg valid, same]
  have submits : (submit (rules.undo before) 1).Costs doc rules ⟨0, 1, []⟩ e c :=
    submit_costs (.undo before) trivial 1 same
  apply submits.attempt.then
  intro result e' c' same'
  cases result with
  | error fault => exact costs_pure _ _ same'
  | ok response =>
    dsimp only
    split
    · exact costs_pure _ _ same'
    · exact costs_pure _ _ same'

/-- Each statement is sent once at most. -/
theorem replay_costs {ss : List Statement} (mem : ∀ s ∈ ss, s ∈ Statement.all doc) (same : e.rules = rules) :
    (replay ss).Costs doc rules ⟨0, 0, ss⟩ e c := by
  induction ss generalizing e c with
  | nil => exact costs_pure _ _ same
  | cons s rest ih =>
    obtain ⟨first, others⟩ := List.forall_mem_cons.mp mem
    simp only [replay, costs_get_bind]
    by_cases ahead : e.offset < s.stop
    · rw [if_pos ahead]
      have single := executeSingle_costs (c := c) first same
      exact single.bind (b := ⟨0, 0, rest⟩) single fun _ e' c' _ same' => ih others same'
    · rw [if_neg ahead]
      exact (ih others same).mono ⟨Nat.le_refl _, Nat.le_refl _, fun t => List.count_le_count_cons⟩

theorem haltSession_costs (same : e.rules = rules) : haltSession.Costs doc rules 0 e c := by
  apply (haltSession_attended costing_attends e c).mono
  · rintro _ e' c' ⟨rfl, rfl⟩
    exact ⟨same, .nothing doc rules 0 _⟩
  · exact fun _ _ _ absurd => absurd.elim

theorem startSession_costs (same : e.rules = rules) : startSession.Costs doc rules ⟨1, 0, []⟩ e c := by
  have started : Spent doc rules ⟨1, 0, []⟩ c { c with starts := c.starts + 1 } :=
    ⟨1, [], by simp, Allowance.le_refl _, by simp⟩
  apply (startSession_attended costing_attends e c).mono
  · rintro _ e' c' ⟨greeting, rfl, rfl⟩
    exact ⟨same, started⟩
  · rintro fault e' c' ⟨rfl, -, rfl⟩
    exact ⟨same, started⟩

theorem tryUndo_costs (target : Nat) (same : e.rules = rules) :
    (tryUndo target).Costs doc rules ⟨0, 1, []⟩ e c := by
  have nothing : Spent doc rules ⟨0, 1, []⟩ c c := .nothing doc rules _ c
  have attempt : (tryUndo target).Leads costing.contract
      (fun _ e' c' => e'.rules = rules ∧ Spent doc rules ⟨0, 1, []⟩ c c') (fun _ _ _ => False) e c := by
    apply tryUndo_attended costing_attends
    · exact ⟨same, nothing⟩
    · exact fun _ _ => ⟨same, nothing⟩
    · intro state fault e' c' failed
      rw [same] at failed
      exact failed.spent (.undo state) trivial same
    · intro state r e' c' answered _
      rw [same] at answered
      exact answered.spent (.undo state) trivial same
    · intro state r e' c' _ answered _
      rw [same] at answered
      exact answered.spent (.undo state) trivial same
  exact attempt.mono (fun _ _ _ spent => spent) (fun _ _ _ absurd => absurd.elim)

/-! ## Motions -/

section Motions
variable (covers : Covers doc k e)
include covers

omit covers in
/-- A piece of a document is sent as it stands there. -/
theorem proper_window (lt : k < n) (bound : n ≤ (Statement.all doc).length) :
    (Errand.run (((Statement.all doc).take n).drop k)).Proper doc := by
  obtain ⟨s, -, rest⟩ := drop_take_cons lt bound
  constructor
  · rw [rest]
    exact List.cons_ne_nil _ _
  · exact (List.drop_suffix k _).isInfix.trans (List.take_prefix n _).isInfix

omit covers in
theorem take_window (doc : String) (le : k ≤ n) :
    (Statement.all doc).take k ++ ((Statement.all doc).take n).drop k = (Statement.all doc).take n := by
  conv => rhs; rw [← List.take_append_drop k ((Statement.all doc).take n), List.take_take, Nat.min_eq_left le]

omit covers in
theorem count_take (doc : String) (le : k ≤ n) (s : Statement) : ((Statement.all doc).take n).count s =
    ((Statement.all doc).take k).count s + (((Statement.all doc).take n).drop k).count s := by
  rw [← List.count_append, take_window doc le]

theorem restart_costs (next : Act Unit) {a : Allowance} (same : e.rules = rules)
    (goes : ∀ e₁ c₁, Covers doc 0 e₁ → e₁.rules = rules → next.Costs doc rules a e₁ c₁) :
    (do haltSession; startSession; next : Act Unit).Costs doc rules (⟨1, 0, []⟩ + a) e c := by
  rw [← Allowance.zero_add (⟨1, 0, []⟩ + a)]
  refine (haltSession_costs same).bind (haltSession_attended costing_attends e c) ?_
  rintro _ _ c₁ ⟨rfl, -⟩ -
  refine (startSession_costs same).bind (startSession_attended costing_attends _ c₁) ?_
  rintro _ _ c₂ ⟨greeting, rfl, -⟩ same₂
  exact goes _ c₂ (covers.opened greeting) same₂

theorem restartAndReplay_costs (le : k ≤ n) (same : e.rules = rules) :
    (restartAndReplay (((Statement.all doc).take n).drop k)).Costs doc rules ⟨1, 0, (Statement.all doc).take n⟩
      e c := by
  simp only [restartAndReplay, costs_get_bind, covers.offset, covers.outlines.upTo covers.bound, take_window doc le]
  refine restart_costs covers _ same fun e₁ c₁ _ same₁ => replay_costs ?_ same₁
  exact fun s mem => List.mem_of_mem_take mem

/-- A batch that was rejected in vain is sent once more, one statement at a time, to this process or to another one. -/
theorem forwardThrough_costs (lt : k < n) (bound : n ≤ (Statement.all doc).length) (same : e.rules = rules) :
    (forwardThrough (((Statement.all doc).take n).drop k)).Costs doc rules
      ⟨1, 1, ((Statement.all doc).take n).drop k ++ (Statement.all doc).take n⟩ e c := by
  have window : ∀ s ∈ ((Statement.all doc).take n).drop k, s ∈ Statement.all doc :=
    fun s mem => List.mem_of_mem_take (List.mem_of_mem_drop mem)
  have le := Nat.le_of_lt lt
  unfold forwardThrough
  split
  · next stmt alone =>
    rw [alone] at window
    refine (executeSingle_costs (window stmt List.mem_cons_self) same).mono ?_
    refine Allowance.mk_le (Nat.zero_le _) (Nat.zero_le _) fun s => ?_
    rw [alone, List.count_append]
    exact Nat.le_add_right _ _
  · simp only [costs_get_bind]
    have batch := executeBatch_costs (c := c) (proper_window lt bound) same
    have leads : (executeBatch (((Statement.all doc).take n).drop k)).attempt.Leads costing.contract
        (fun result e' _ => result = .ok .accepted ∨ Covers doc k e') (fun _ _ _ => False) e c := by
      rw [Act.leads_attempt]
      apply (executeBatch_region costing_attends covers lt bound).mono
      · intro result e' _ covers'
        cases result with
        | accepted => exact .inl rfl
        | rejected state => exact .inr covers'
      · exact fun _ _ _ failed => .inr failed.1
    refine batch.attempt.bind (b := ⟨1, 1, (Statement.all doc).take n⟩) leads ?_
    rintro result e₁ c₁ (rfl | covers₁) same₁
    · exact costs_pure _ _ same₁
    cases result with
    | error fault =>
      dsimp only
      split
      · refine (restartAndReplay_costs covers₁ le same₁).mono ?_
        exact Allowance.mk_le (Nat.le_refl _) (Nat.zero_le _) fun s => Nat.le_refl _
      · exact costs_throw _ _ same₁
    | ok result =>
      cases result with
      | accepted => exact costs_pure _ _ same₁
      | rejected state =>
        have leads := rewindBatch_region (s := c₁) costing_attends covers₁ e.undo.current state
        refine (rewindBatch_costs _ state same₁).bind (b := ⟨1, 0, (Statement.all doc).take n⟩) leads ?_
        intro rewound e₂ c₂ covers₂ same₂
        cases rewound with
        | false => exact restartAndReplay_costs covers₂ le same₂
        | true =>
          refine (replay_costs window same₂).mono (Allowance.mk_le (Nat.zero_le _) (Nat.zero_le _) fun s => ?_)
          rw [count_take doc le s]
          exact Nat.le_add_left _ _

/-- A recovery sends its statements twice at most, and starts two processes at most. -/
theorem recoverTo_costs (bound : n ≤ (Statement.all doc).length) (same : e.rules = rules) :
    (recoverTo (endOf doc n)).Costs doc rules ⟨2, 1, (Statement.all doc).take n ++ (Statement.all doc).take n⟩
      e c := by
  have recovering : Covers doc k { e with activity := .recovering } := { covers with }
  simp only [recoverTo, costs_modify_bind]
  refine restart_costs (a := ⟨1, 1, (Statement.all doc).take n ++ (Statement.all doc).take n⟩) recovering _ same ?_
  intro e₁ c₁ covers₁ same₁
  rw [costs_get_bind, covers₁.outlines.upTo bound]
  by_cases none : n = 0
  · subst none
    exact costs_pure _ _ same₁
  · have some : ((Statement.all doc).take n).isEmpty = false := by
      rw [List.isEmpty_eq_false_iff, ← List.length_pos_iff, List.length_take]
      omega
    simp only [some, Bool.not_false, ↓reduceIte]
    exact forwardThrough_costs covers₁ (Nat.pos_of_ne_zero none) bound same₁

theorem backwardTo_costs {j : Nat} (bound : j ≤ (Statement.all doc).length) (same : e.rules = rules) :
    (backwardTo (endOf doc j)).Costs doc rules ⟨2, 2, (Statement.all doc).take j ++ (Statement.all doc).take j⟩
      e c := by
  rw [backwardTo, costs_get_bind]
  split
  · have leads := tryUndo_region (s := c) costing_attends covers bound
    refine (tryUndo_costs _ same).bind (b := ⟨2, 1, (Statement.all doc).take j ++ (Statement.all doc).take j⟩) leads ?_
    intro undone e₁ c₁ covers₁ same₁
    cases undone with
    | true => exact costs_pure _ _ same₁
    | false => exact recoverTo_costs covers₁ bound same₁
  · exact costs_pure _ _ same

omit covers in
/-- To look whether a process is ready costs nothing and changes nothing. -/
theorem ready_costs (doc : String) (c : Cost) (same : e.rules = rules) : ready.Costs doc rules 0 e c ∧
    ready.Leads costing.contract (fun _ e' _ => e' = e) (fun _ _ _ => False) e c := by
  simp only [ready, Costs, Act.leads_bind, Act.leads_ask, Watch.contract_asks, Watch.contract_answers, Act.leads_get,
    Act.leads_pure]
  refine ⟨⟨trivial, ?_⟩, trivial, fun _ _ _ => trivial⟩
  rintro running _ ⟨-, rfl⟩
  exact ⟨same, .nothing doc rules 0 _⟩

theorem ensureSession_costs (same : e.rules = rules) : ensureSession.Costs doc rules
    ⟨2, 1, (Statement.all doc).take k ++ (Statement.all doc).take k⟩ e c := by
  obtain ⟨costs, leads⟩ := ready_costs doc c same
  rw [ensureSession, ← Allowance.zero_add ⟨2, 1, _⟩]
  refine costs.bind leads ?_
  rintro free _ c₁ rfl -
  cases free with
  | true => exact costs_pure _ _ same
  | false =>
    simp only [Bool.not_false, ↓reduceIte, costs_get_bind]
    split
    · exact (startSession_costs same).mono (Allowance.mk_le (by decide) (Nat.zero_le _) fun s => Nat.zero_le _)
    · rw [covers.offset]
      apply (recoverTo_costs covers covers.bound same).then
      intro _ e₂ c₂ same₂
      rw [costs_get_bind]
      split
      · exact costs_throw _ _ same₂
      · exact costs_pure _ _ same₂

end Motions

/-! ## Operations -/

/-- What an operation may cost. -/
def allowance (doc : String) (starts : Nat) : Allowance :=
  ⟨starts, 2, Statement.all doc ++ Statement.all doc ++ Statement.all doc⟩

theorem le_allowance {starts starts' undos : Nat} {runs : List Statement} (few : starts ≤ starts') (twice : undos ≤ 2)
    (thrice : ∀ s, runs.count s ≤ 3 * (Statement.all doc).count s) : ⟨starts, undos, runs⟩ ≤ allowance doc starts' := by
  refine Allowance.mk_le few twice fun s => ?_
  have := thrice s
  rw [List.count_append, List.count_append]
  omega

theorem count_take_le (doc : String) (n : Nat) (s : Statement) :
    ((Statement.all doc).take n).count s ≤ (Statement.all doc).count s :=
  (List.take_sublist n _).count_le s

section Operations
variable (covers : Covers doc k e)
include covers

theorem recoverTo_allowed (bound : n ≤ (Statement.all doc).length) (same : e.rules = rules) :
    (recoverTo (endOf doc n)).Costs doc rules (allowance doc 2) e c := by
  refine (recoverTo_costs covers bound same).mono (le_allowance (by decide) (by decide) fun s => ?_)
  have := count_take_le doc n s
  rw [List.count_append]
  omega

theorem backwardTo_allowed (bound : n ≤ (Statement.all doc).length) (same : e.rules = rules) :
    (backwardTo (endOf doc n)).Costs doc rules (allowance doc 2) e c := by
  refine (backwardTo_costs covers bound same).mono (le_allowance (by decide) (by decide) fun s => ?_)
  have := count_take_le doc n s
  rw [List.count_append]
  omega

theorem stepForward_costs (same : e.rules = rules) : stepForward.Costs doc rules (allowance doc 2) e c := by
  rw [stepForward, costs_get_bind]
  split
  · have leads := ensureSession_region (s := c) costing_attends covers
    refine ((ensureSession_costs (c := c) covers same).bind (b := ⟨0, 0, (Statement.all doc)⟩) leads ?_).mono ?_
    · intro _ e₁ c₁ covers₁ same₁
      rw [costs_get_bind, covers₁.offset, covers₁.outlines.next? covers₁.bound]
      cases found : (Statement.all doc)[k]? with
      | none => exact costs_pure _ _ same₁
      | some stmt =>
        have mem := List.mem_of_getElem? found
        refine (executeSingle_costs mem same₁).mono (Allowance.mk_le (Nat.le_refl _) (Nat.le_refl _) fun s => ?_)
        exact (List.singleton_sublist.mpr mem).count_le s
    · rw [Allowance.mk_add]
      refine le_allowance (by decide) (by decide) fun s => ?_
      have := count_take_le doc k s
      rw [List.count_append, List.count_append]
      omega
  · exact costs_pure _ _ same

theorem stepBackward_costs (same : e.rules = rules) : stepBackward.Costs doc rules (allowance doc 2) e c := by
  rw [stepBackward, costs_get_bind]
  split
  · rw [covers.offset, covers.outlines.previousEnd covers.bound]
    exact backwardTo_allowed covers (Nat.le_trans (Nat.sub_le k 1) covers.bound) same
  · exact costs_pure _ _ same

theorem goToCursor_costs (cursor : Nat) (same : e.rules = rules) : (goToCursor cursor).Costs doc rules
    (allowance doc (if (Intent.goToCursor cursor).ahead doc e.offset then 3 else 2)) e c := by
  obtain ⟨n, bound, target⟩ := (outlines_outlineOf doc 0).boundaryAt cursor
  have target' := (covers.outlines.boundaryAt_same cursor).trans target
  rw [goToCursor, costs_get_bind]
  simp only [target', covers.offset, Intent.ahead, target, endOf_lt_iff bound covers.bound,
    endOf_lt_iff covers.bound bound, decide_eq_true_eq]
  rcases Nat.lt_trichotomy n k with behind | rfl | ahead
  · have retracting : Covers doc k { e with activity := .retracting } := { covers with }
    rw [if_pos behind, if_neg (Nat.lt_asymm behind), costs_modify_bind]
    exact backwardTo_allowed retracting bound same
  · simp only [Nat.lt_irrefl, ↓reduceIte]
    exact costs_pure _ _ same
  · rw [if_neg (Nat.lt_asymm ahead), if_pos ahead, if_pos ahead]
    have leads := ensureSession_region (s := c) costing_attends covers
    refine ((ensureSession_costs (c := c) covers same).bind
      (b := ⟨1, 1, ((Statement.all doc).take n).drop k ++ (Statement.all doc).take n⟩) leads ?_).mono ?_
    · intro _ e₁ c₁ covers₁ same₁
      rw [costs_get_bind, covers₁.offset, covers₁.outlines.within (Nat.le_of_lt ahead) bound]
      split
      · exact forwardThrough_costs covers₁ ahead bound same₁
      · exact costs_pure _ _ same₁
    · -- What the recovery sends and what the batch adds to it are together what the last attempt sends.
      rw [Allowance.mk_add]
      refine le_allowance (Nat.le_refl 3) (Nat.le_refl 2) fun s => ?_
      have whole := count_take doc (Nat.le_of_lt ahead) s
      have less := count_take_le doc n s
      simp only [List.count_append]
      omega

theorem retract_costs (edit : Nat) (same : e.rules = rules) : (retract edit).Costs doc rules (allowance doc 2) e c := by
  obtain ⟨j, bound, target, -⟩ := covers.outlines.boundaryUpTo edit
  rw [retract, costs_get_bind, target]
  split
  · exact backwardTo_allowed covers bound same
  · exact costs_pure _ _ same

omit covers in
theorem reset_costs (same : e.rules = rules) : reset.Costs doc rules (allowance doc 2) e c := by
  apply ((haltSession_costs same).mono (Allowance.zero_le _)).then
  intro _ e' c' same'
  exact costs_modify _ _ same'

theorem act_costs (i : Intent) (same : e.rules = rules) :
    (act i).Costs doc rules (allowance doc (if i.ahead doc e.offset then 3 else 2)) e c := by
  cases i with
  | stepForward => exact stepForward_costs covers same
  | stepBackward => exact stepBackward_costs covers same
  | goToCursor cursor => exact goToCursor_costs covers cursor same
  | recover =>
    rw [act, costs_get_bind, covers.offset]
    exact recoverTo_allowed covers covers.bound same
  | retract edit => exact retract_costs covers edit same
  | reset => exact reset_costs same

theorem perform_costs (i : Intent) (same : e.rules = rules) : (e.perform i).Leads costing.contract
    (fun _ c' => Spent doc rules (allowance doc (if i.ahead doc e.offset then 3 else 2)) c c') c := by
  apply performing_leads (attended_quiet costing_attends) i fun _ _ c' =>
    Spent doc rules (allowance doc (if i.ahead doc e.offset then 3 else 2)) c c'
  have costs := act_costs (c := c) (covers.begun i) i (show (e.begun i).rules = rules from same)
  exact Leads.mono costs (fun _ _ _ spent => spent.2) (fun _ _ _ spent => spent.2)

end Operations

end Engine

/-! ## Every way through an operation -/

/-- Goes through a dialogue to its end, with a prover that may remember everything it was asked: all questions with
their answers, and the result. -/
def Dialogue.answered (reply : List Asked → (q : Query) → q.Reply) (asked : List Asked) :
    Dialogue α → List Asked × α
  | done a => (asked, a)
  | ask q next => (next (reply asked q)).answered reply (asked ++ [⟨q, reply asked q⟩])

theorem Dialogue.Leads.answered {d : Dialogue α} {post : α → Cost → Prop} (asked : List Asked)
    (leads : d.Leads costing.contract post (costing.sum asked)) (reply : List Asked → (q : Query) → q.Reply) :
    post (d.answered reply asked).2 (costing.sum (d.answered reply asked).1) := by
  induction d generalizing asked with
  | done a => exact leads
  | ask q next ih =>
    apply ih
    rw [Watch.sum_concat]
    exact leads.2 _ _ ⟨trivial, rfl⟩

/-- An attempt to start a process. -/
def Asked.start (a : Asked) : Bool :=
  match a.query with
  | .start => true
  | _ => false

/-- The command that was sent. -/
def Asked.sent? (a : Asked) : Option String :=
  match a.query with
  | .send text => some text
  | _ => none

theorem costing_sum (asked : List Asked) :
    costing.sum asked = ⟨asked.countP (·.start), asked.filterMap (·.sent?)⟩ := by
  have more : ∀ c : Cost, asked.foldl (fun c a => costing.after c a.query a.reply) c =
      ⟨c.starts + asked.countP (·.start), c.sent ++ asked.filterMap (·.sent?)⟩ := by
    induction asked with
    | nil => simp
    | cons a rest ih =>
      intro c
      rw [List.foldl_cons, ih]
      obtain ⟨q, r⟩ := a
      cases q with
      | start => simp [costing, Asked.start, Asked.sent?, Nat.add_assoc, Nat.add_comm 1]
      | send text => simp [costing, Asked.start, Asked.sent?]
      | _ => simp [costing, Asked.start, Asked.sent?]
  have sums := more {}
  rwa [Nat.zero_add, List.nil_append] at sums

/-- What was asked of a prover in an operation on a document is little: processes are started a few times, at most two
commands undo something, and no statement is sent more than three times. -/
structure Economical (doc : String) (rules : Rules) (starts : Nat) (asked : List Asked) : Prop where
  starts : asked.countP (·.start) ≤ starts
  errands : ∃ errands : List Errand, asked.filterMap (·.sent?) = errands.map (·.text rules) ∧
    (∀ errand ∈ errands, errand.Proper doc) ∧ errands.countP (·.undoes) ≤ 2 ∧
    ∀ s ∈ Statement.all doc, errands.countP (·.statements.contains s) ≤ 3
  commands : (asked.filterMap (·.sent?)).length ≤ 3 * (Statement.all doc).length + 2

theorem all_nodup (doc : String) : (Statement.all doc).Nodup := by
  have order := Statement.all_inOrder doc
  refine order.apart.imp_of_mem ?_
  rintro s _ mem _ apart rfl
  have := order.solid s mem
  omega

namespace Errand

/-- Where a statement is sent, it is among those that are sent. -/
theorem countP_contains_le (errands : List Errand) (s : Statement) :
    errands.countP (·.statements.contains s) ≤ (errands.flatMap (·.statements)).count s := by
  induction errands with
  | nil => simp
  | cons errand rest ih =>
    rw [List.flatMap_cons, List.count_append, List.countP_cons]
    by_cases sent : s ∈ errand.statements
    · have := List.count_pos_iff.mpr sent
      simp only [List.contains_iff_mem, sent, ↓reduceIte]
      omega
    · simp only [List.contains_iff_mem, sent, ↓reduceIte]
      omega

/-- A command undoes something, or at least one statement is sent by it. -/
theorem length_le {doc : String} (errands : List Errand) (proper : ∀ errand ∈ errands, errand.Proper doc) :
    errands.length ≤ errands.countP (·.undoes) + (errands.flatMap (·.statements)).length := by
  induction errands with
  | nil => simp
  | cons errand rest ih =>
    obtain ⟨first, others⟩ := List.forall_mem_cons.mp proper
    have := ih others
    rw [List.flatMap_cons, List.length_append, List.countP_cons, List.length_cons]
    cases errand with
    | undo state =>
      simp only [undoes_undo, statements_undo, List.length_nil, ↓reduceIte]
      omega
    | run ss =>
      have := List.length_pos_iff.mpr first.1
      simp only [undoes_run, statements_run, Bool.false_eq_true, ↓reduceIte]
      omega

end Errand

theorem Spent.economical {doc : String} {rules : Rules} {starts : Nat} {asked : List Asked}
    (spent : Spent doc rules (Engine.allowance doc starts) {} (costing.sum asked)) :
    Economical doc rules starts asked := by
  obtain ⟨n, errands, same, within, proper⟩ := spent
  rw [costing_sum, Cost.mk.injEq, Nat.zero_add, List.nil_append] at same
  obtain ⟨started, sent⟩ := same
  have thrice : ∀ s, (errands.flatMap (·.statements)).count s ≤ 3 * (Statement.all doc).count s := by
    intro s
    have : _ ≤ (Statement.all doc ++ Statement.all doc ++ Statement.all doc).count s := within.2.2 s
    rw [List.count_append, List.count_append] at this
    exact Nat.le_trans this (by omega)
  constructor
  case starts =>
    rw [started]
    exact within.1
  case errands =>
    refine ⟨errands, sent, proper, within.2.1, fun s mem => ?_⟩
    have once := List.nodup_iff_count.mp (all_nodup doc) s
    have := Errand.countP_contains_le errands s
    have := thrice s
    omega
  case commands =>
    have pieces : (errands.flatMap (·.statements)).Subperm (Engine.allowance doc starts).runs :=
      List.subperm_iff_count.mpr within.2.2
    have size : (Engine.allowance doc starts).runs.length = 3 * (Statement.all doc).length := by
      simp only [Engine.allowance, List.length_append]
      omega
    have := pieces.length_le
    have := Errand.length_le errands proper
    have undos : errands.countP (·.undoes) ≤ 2 := within.2.1
    rw [sent, List.length_map]
    omega

/-- On one document, no operation goes round in circles: whatever the prover answers, it ends after few commands. -/
theorem no_restart_storm {settings : Settings} {c : Course} {doc : String} (reached : c.ReachedOn settings (· = doc))
    {e : Engine} (settled : c.Settled e) {e' : Engine} (present : e' = e ∨ ∃ version, e' = e.setDocument doc version)
    (i : Intent) (reply : List Asked → (q : Query) → q.Reply) :
    Economical e'.document e'.rules (if i.ahead e'.document e'.offset then 3 else 2)
      ((e'.perform i).answered reply []).1 := by
  have sound := Course.reachedOn_sound (Engine.coversOne_keeps doc) (Engine.opens_coversOne doc) reached
    (lawful_anyProver c.asked)
  have one : e.CoversOne doc := sound.2.settled settled
  obtain ⟨text, k, -, covers⟩ : e'.CoversOne doc := by
    rcases present with rfl | ⟨version, rfl⟩
    · exact one
    · exact one.setDocument version
  obtain rfl := covers.document
  have spent := Dialogue.Leads.answered [] (Engine.perform_costs covers i rfl) reply
  exact spent.economical

/-- Behind the first of two statements, a motion to the end of the second starts three processes at most. -/
theorem jumping_no_restart_storm : ∃ c : Course, (c.ReachedOn {} (· = "a. b.") ∧ c.Settled c.desk.engine) ∧
    (Intent.goToCursor 5).ahead c.desk.engine.document c.desk.engine.offset = true ∧
      ∀ reply, Economical "a. b." c.desk.engine.rules 3
        ((c.desk.engine.perform (.goToCursor 5)).answered reply []).1 := by
  have reachedOn : jumpingCourse.ReachedOn {} (· = "a. b.") :=
    ⟨.standard, Desk.ofSettings_default, sayingCourse_steps (· = "a. b.") rfl _⟩
  have settled : jumpingCourse.Settled jumpingCourse.desk.engine := .free (by decide +kernel)
  have ahead : (Intent.goToCursor 5).ahead jumpingCourse.desk.engine.document jumpingCourse.desk.engine.offset =
      true := by decide +kernel
  have document : jumpingCourse.desk.engine.document = "a. b." := by decide +kernel
  refine ⟨jumpingCourse, ⟨reachedOn, settled⟩, ahead, fun reply => ?_⟩
  have economical := no_restart_storm reachedOn settled (.inl rfl) (.goToCursor 5) reply
  rwa [if_pos ahead, document] at economical

end Frontier
