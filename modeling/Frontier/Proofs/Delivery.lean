import Frontier.Proofs.Interleaving
import Frontier.Proofs.Pausing
import Frontier.Proofs.Retraction

/-!
# Versions that come during a call

A host may deliver new versions of the document while an intent is being carried out. The desk takes each of them into
its inbox; the intent goes on undisturbed, and only when it has come to its end is the inbox looked into.
-/

namespace Frontier
open Ledger

/-- A new version of a document, with the first byte that was changed, and when it comes if a call is in progress. -/
structure Revision where
  document : String
  version : Int
  edit : Nat
  after : Nat := 0

/-- A host delivers the new version. -/
def Revision.call (r : Revision) : Call := .update r.document r.version (some r.edit)

/-- A new version comes while a call is in progress. -/
def Revision.entry (r : Revision) : Bench.Entry Ledger := ⟨r.after, .call r.call⟩

/-- What new versions leave in an inbox. -/
def Inbox.addAll (b : Inbox) (rs : List Revision) : Inbox :=
  rs.foldl (fun b r => b.add r.document r.version (some r.edit)) b

theorem Inbox.addAll_edit {b : Inbox} {missed : List Nat} (same : b.edit = missed.min?) (rs : List Revision) :
    (b.addAll rs).edit = (missed ++ rs.map (·.edit)).min? := by
  induction rs generalizing b missed with
  | nil => simpa [addAll] using same
  | cons r rest ih =>
    have added := ih (Inbox.add_missed same r.document r.version (some r.edit))
    rw [List.append_assoc] at added
    exact added

theorem Inbox.addAll_document (b : Inbox) {rs : List Revision} {last : Revision} (ends : rs.getLast? = some last) :
    (b.addAll rs).document = some (last.document, last.version) := by
  obtain ⟨before, rfl⟩ := List.getLast?_eq_some_iff.mp ends
  simp [addAll, add]

/-- What is left in an empty inbox: the last version, and the smallest edit. -/
theorem Inbox.addAll_empty {rs : List Revision} {last : Revision} {edit : Nat} (ends : rs.getLast? = some last)
    (least : (rs.map (·.edit)).min? = some edit) :
    ({} : Inbox).addAll rs = ⟨some (last.document, last.version), some edit⟩ := by
  have document := Inbox.addAll_document {} ends
  have pending : (({} : Inbox).addAll rs).edit = some edit := by
    have added := Inbox.addAll_edit (show ({} : Inbox).edit = ([] : List Nat).min? from rfl) rs
    rw [added]
    exact least
  rw [← document, ← pending]

/-- The intent that a call is to carry out is not done with yet. -/
def Phase.early : Phase → Bool
  | .opening _ | .acting => true
  | _ => false

namespace Desk

/-- No intent is to be carried out, or is being. -/
def Late (d : Desk) : Prop := ∀ ticket phase, d.holder = some (ticket, phase) → phase.early = false

variable {d : Desk} {ticket : Ticket} {phase : Phase}

theorem drain_late (late : phase.early = false) {otherwise : Desk → Move} (next : ∀ d, (otherwise d).desk.Late) :
    (d.drain ticket phase otherwise).desk.Late := by
  obtain ⟨d', -, ⟨-, goesOn⟩ | ⟨edit, -, -, retracts⟩⟩ := d.drain_cases ticket phase otherwise
  · rw [goesOn]
    exact next d'
  · rw [retracts]
    rintro _ _ ⟨⟩
    exact late

theorem wrapUp_late (d : Desk) (ticket : Ticket) (a : Answer) : (d.wrapUp ticket a).desk.Late := by
  rintro _ _ ⟨⟩
  rfl

/-- An intent that was carried out is not begun anew. -/
theorem proceed_late {f : Finding}
    (done : d.Late ∨ ∃ ticket o e, d.holder = some (ticket, .acting) ∧ f = .performed o e) :
    (d.proceed f).desk.Late := by
  unfold proceed
  split
  · next held =>
    rcases done with late | ⟨_, _, _, acting, -⟩
    · cases late _ _ held
    · rw [held] at acting
      cases acting
  · exact drain_late rfl fun d => d.wrapUp_late _ _
  · exact drain_late rfl fun d => d.wrapUp_late _ _
  · exact drain_late rfl fun d => d.wrapUp_late _ _
  · exact wrapUp_late _ _ _
  · obtain ⟨shown, -, free | ⟨next, rest, stops⟩⟩ := release_cases _ _ _
    · rw [free]
      rintro _ _ ⟨⟩
    · rw [stops]
      rintro _ _ ⟨⟩
      rfl
  · next opens acts closes settles stops records =>
    rcases done with late | ⟨ticket, o, e, acting, rfl⟩
    · exact late
    · exact (acts ticket o e acting rfl).elim

end Desk

namespace Bench
variable {b : Bench Ledger} {d : Desk} {o : Outcome} {e : Engine} {v : World Ledger}

theorem drive_late (bound : Option Nat) (b : Bench Ledger) {m : Move} (late : m.desk.Late) :
    (b.drive bound m).desk.Late := by
  fun_induction drive bound b m with
  | case1 b m => exact late
  | case2 b m => exact late
  | case3 b m _ work _ world f _ next _ ih => exact ih (Desk.proceed_late (.inl late))
  | case4 b m => exact Desk.proceed_late (.inl late)

theorem goOn_late (bound : Option Nat) (late : b.desk.Late) : (b.goOn bound).desk.Late := by
  unfold goOn
  split
  · exact late
  · split
    · exact late
    · exact drive_late bound _ (Desk.proceed_late (.inl late))

/-- An intent is being carried out, and will end so whatever comes in the meantime. -/
structure Acting (d : Desk) (f : Finding) (v : World Ledger) (b : Bench Ledger) : Prop where
  desk : b.desk = d
  goes : ∃ p v', b.job = some p ∧ b.world.rerun none p = (v', .inl f) ∧ v.Like v'

/-- An intent goes on to a limit, or has been carried out. -/
theorem Acting.goOn (acting : b.Acting d (.performed o e) v) {ticket : Ticket}
    (held : d.holder = some (ticket, .acting)) (limit : Nat) : (b.goOn (some limit)).desk.Late ∨
      (b.passTo limit).Acting d (.performed o e) v := by
  obtain ⟨rfl, p, v', job, ends, like⟩ := acting
  have reaches := World.rerun_reaches ends (some limit)
  simp only [passTo, Bench.goOn, job]
  generalize b.world.rerun (some limit) p = out at reaches
  cases reaches with
  | ended like' => exact .inl (drive_late _ _ (Desk.proceed_late (.inr ⟨ticket, o, e, held, rfl⟩)))
  | paused bounded later =>
    cases bounded
    obtain ⟨v₁, ends', like'⟩ := later limit (Nat.le_refl limit)
    exact .inr ⟨rfl, _, v₁, rfl, ends', like.trans like'⟩

/-- New versions come one after the other while the intent of the main task is being carried out. -/
def Meets (began : Nat) : Bench Ledger → List Revision → Prop
  | _, [] => True
  | b, r :: rest => (b.passTo (max b.world.clock (began + r.after))).desk.holder = some (mainTicket, .acting) ∧
      Meets began (b.enter r.entry began).1 rest

instance decidableMeets (began : Nat) : (b : Bench Ledger) → (rs : List Revision) → Decidable (Meets began b rs)
  | _, [] => .isTrue trivial
  | b, r :: rest =>
    have := decidableMeets began (b.enter r.entry began).1 rest
    inferInstanceAs (Decidable (_ ∧ _))

/-- The bench when an intent is begun, up to when the first of the new versions comes. -/
def begun (b : Bench Ledger) (i : Intent) (rs : List Revision) : Bench Ledger :=
  ({ b with answers := [] } : Bench Ledger).call (rs.head?.map fun r => b.world.clock + r.after) mainTicket (.intent i)

/-- The new versions come while the intent is being carried out. -/
def Interrupts (b : Bench Ledger) (i : Intent) (rs : List Revision) : Prop := (b.begun i rs).Meets b.world.clock rs

/-- The bench after an intent during which new versions came. -/
def during (b : Bench Ledger) (i : Intent) (rs : List Revision) : Bench Ledger :=
  (b.step (.call (.intent i)) (rs.map Revision.entry)).1

/-- A phase that carries out an intent is begun. -/
theorem drive_acting (b : Bench Ledger) {m : Move} {work : Dialogue Finding} {ticket : Ticket}
    (works : m.work = some work) (held : m.desk.holder = some (ticket, .acting))
    (runs : b.world.run none work = (v, .inl (.performed o e))) (bound : Option Nat) :
    (b.drive bound m).desk.Late ∨ (b.drive bound m).Acting m.desk (.performed o e) v := by
  have reaches := World.run_reaches (.refl b.world) runs bound
  have late := Desk.proceed_late (.inr ⟨ticket, o, e, held, rfl⟩)
  rw [drive]
  simp only [works]
  generalize b.world.run bound work = out at reaches
  cases reaches with
  | @ended v' like =>
    left
    by_cases more : (m.desk.proceed (.performed o e)).work.isSome = true
    · simp only [more, ↓reduceDIte]
      exact drive_late bound _ late
    · simp only [more, Bool.false_eq_true, ↓reduceDIte]
      exact late
  | @paused v' p limit bounded later =>
    obtain ⟨v₁, ends, like⟩ := later 0 (Nat.zero_le limit)
    exact .inr ⟨rfl, p, v₁, rfl, ends, like⟩

/-- An intent is begun. -/
theorem begun_acting (idle : b.Idle) {i : Intent} {work : Dialogue Finding}
    (works : (b.desk.perform mainTicket .acting i).work = some work)
    (runs : b.world.run none work = (v, .inl (.performed o e))) (rs : List Revision) :
    (b.begun i rs).desk.Late ∨
      (b.begun i rs).Acting (b.desk.perform mainTicket .acting i).desk (.performed o e) v := by
  have some : (b.desk.perform mainTicket .acting i).work.isSome = true := by
    rw [works]
    rfl
  simp only [Bench.begun, Bench.call, call_intent idle mainTicket i, some, ↓reduceIte]
  exact drive_acting { b with answers := [] } works rfl runs _

/-- A new version that comes while a call holds the engine is taken into the inbox. -/
theorem enter_held {began : Nat} {r : Revision} {b' : Bench Ledger}
    (passes : b.passTo (max b.world.clock (began + r.after)) = b') (held : b'.desk.holder.isSome = true) :
    (b.enter r.entry began).1 = { b' with
      desk := { b'.desk with inbox := b'.desk.inbox.add r.document r.version (some r.edit) }
      answers := b'.answers.filter (·.1 != secondTicket) ++ [(secondTicket, .updated none)] } := by
  have answered : ∀ l : List (Ticket × Answer),
      ((l ++ [(secondTicket, Answer.updated none)]).lookup secondTicket).isSome = true := by
    intro l
    simp [List.lookup_append]
  have passes : b.passTo (max b.world.clock (began + r.entry.after)) = b' := passes
  have calls : r.entry.deed = .call r.call := rfl
  simp only [Bench.enter, passes, calls, Bench.call, Revision.call, Desk.call, held, ↓reduceIte, Option.isSome_none,
    Bool.false_eq_true, Bench.answer?, answered, Bench.status]

/-- A new version comes while an intent is being carried out. -/
theorem Acting.enter {began : Nat} {r : Revision} (acting : b.Acting d (.performed o e) v)
    (holder : d.holder = some (mainTicket, .acting))
    (held : (b.passTo (max b.world.clock (began + r.after))).desk.holder = some (mainTicket, .acting)) :
    (b.enter r.entry began).1.Acting
      { d with inbox := d.inbox.add r.document r.version (some r.edit) } (.performed o e) v := by
  rcases acting.goOn holder (max b.world.clock (began + r.after)) with late | ⟨rfl, p, v', job, ends, like⟩
  · have late : (b.passTo (max b.world.clock (began + r.after))).desk.Late := late
    cases late _ _ held
  · rw [enter_held rfl (by rw [held]; rfl)]
    exact ⟨rfl, p, v', job, ends, like⟩

/-- New versions come while an intent is being carried out. -/
theorem Acting.enterAll {began : Nat} {rs : List Revision} (acting : b.Acting d (.performed o e) v)
    (holder : d.holder = some (mainTicket, .acting)) (meets : b.Meets began rs) :
    (b.enterAll began (rs.map Revision.entry)).1.Acting { d with inbox := d.inbox.addAll rs } (.performed o e) v := by
  induction rs generalizing b d with
  | nil => exact acting
  | cons r rest ih =>
    obtain ⟨held, meets⟩ := meets
    exact ih (acting.enter holder held) holder meets

theorem proceed_closing (inbox : d.inbox = {}) (ticket : Ticket) (first : Outcome) (i : Intent) (o : Outcome)
    (e : Engine) : (d.perform ticket (.closing first) i).desk.proceed (.performed o e) =
      ({ (d.perform ticket (.closing first) i).desk with engine := e } : Desk).wrapUp ticket
        (.outcome { first with offset := o.offset }) := by
  have inbox : ({ (d.perform ticket (.closing first) i).desk with engine := e } : Desk).inbox = {} := inbox
  exact drain_nothing inbox (.closing { first with offset := o.offset }) fun d =>
    d.wrapUp ticket (.outcome { first with offset := o.offset })

/-- When an intent has been carried out, the engine takes the last version and retracts an edit in the region. -/
theorem proceed_edited {document : String} {version : Int} {edit : Nat} {ticket : Ticket}
    (held : d.holder = some (ticket, .acting)) (inbox : d.inbox = ⟨some (document, version), some edit⟩) (o : Outcome)
    (e : Engine) : ∃ d' : Desk, d'.engine = e.setDocument document version ∧ d'.inbox = {} ∧ d'.waiting = d.waiting ∧
      d.proceed (.performed o e) =
        if edit < e.offset then d'.perform ticket (.closing o) (.retract edit) else d'.wrapUp ticket (.outcome o) := by
  refine ⟨{ d with engine := e.setDocument document version, inbox := {} }, rfl, rfl, rfl, ?_⟩
  simp only [Desk.proceed, held, Desk.drain, inbox, Desk.takeDocument]
  rfl

theorem drive_edited {post : Engine → View → Prop} (b : Bench Ledger) {document : String} {version : Int} {edit : Nat}
    {ticket : Ticket} (held : d.holder = some (ticket, .acting)) (alone : d.waiting = [])
    (inbox : d.inbox = ⟨some (document, version), some edit⟩) (o : Outcome) {e : Engine}
    (outside : e.offset ≤ edit → post (e.setDocument document version) (view b.world.prover))
    (inside : edit < e.offset → ((e.setDocument document version).perform (.retract edit)).Leads contract
      (fun p v => post p.2 v) (view b.world.prover)) :
    (b.drive none (d.proceed (.performed o e))).Idle ∧
      post (b.drive none (d.proceed (.performed o e))).desk.engine
        (view (b.drive none (d.proceed (.performed o e))).world.prover) := by
  obtain ⟨d', engine, inbox', waiting, goes⟩ := proceed_edited held inbox o e
  rw [alone] at waiting
  rw [← engine] at outside inside
  rw [goes]
  split
  · next lies =>
    have leads : (d'.engine.perform (.retract edit) >>= fun p => pure (Finding.performed p.1 p.2)).Leads contract
        (fun f v => ∃ o' e', f = .performed o' e' ∧ post e' v) (view b.world.prover) := by
      rw [Dialogue.leads_bind]
      exact (inside lies).mono fun p v holds => ⟨p.1, p.2, rfl, holds⟩
    obtain ⟨w, _, runs, o', e', rfl, holds⟩ := World.run_leads leads
    rw [drive_then b rfl runs (proceed_closing inbox' ticket o (.retract edit) o' e') rfl waiting]
    exact ⟨⟨rfl, rfl, inbox', rfl⟩, holds⟩
  · next behind =>
    rw [drive_wrapUp b waiting]
    exact ⟨⟨rfl, rfl, inbox', rfl⟩, outside (Nat.not_lt.mp behind)⟩

theorem during_eq (b : Bench Ledger) (i : Intent) (rs : List Revision) : b.during i rs =
    let b' := ((b.begun i rs).enterAll b.world.clock (rs.map Revision.entry)).1.goOn none
    { b' with world := settled b'.world } := by
  simp only [during, step, begun, List.head?_map, Option.map_map]
  rfl

/-- An intent during which new versions came has been carried out, and the desk looks into its inbox: if the first byte
that was changed lies in the verified region, that is retracted in the last version. -/
theorem during_settles (post : Engine → View → Prop) (idle : b.Idle) {i : Intent} {work : Dialogue Finding}
    (works : (b.desk.perform mainTicket .acting i).work = some work)
    (runs : b.world.run none work = (v, .inl (.performed o e))) {rs : List Revision} {last : Revision} {edit : Nat}
    (interrupts : b.Interrupts i rs) (ends : rs.getLast? = some last) (least : (rs.map (·.edit)).min? = some edit)
    (outside : e.offset ≤ edit → post (e.setDocument last.document last.version) (view v.prover))
    (inside : edit < e.offset → ((e.setDocument last.document last.version).perform (.retract edit)).Leads contract
      (fun p v => post p.2 v) (view v.prover)) :
    (b.during i rs).Idle ∧ post (b.during i rs).desk.engine (view (b.during i rs).world.prover) := by
  obtain ⟨r, rest, rfl⟩ : ∃ r rest, rs = r :: rest := by
    cases rs with
    | nil => cases ends
    | cons r rest => exact ⟨r, rest, rfl⟩
  have acting : (b.begun i (r :: rest)).Acting (b.desk.perform mainTicket .acting i).desk (.performed o e) v := by
    rcases begun_acting idle works runs (r :: rest) with late | acting
    · cases (goOn_late (some _) late) _ _ interrupts.1
    · exact acting
  obtain ⟨desk, p, v', job, reruns, like⟩ := acting.enterAll rfl interrupts
  rw [during_eq]
  generalize (b.begun i (r :: rest)).enterAll b.world.clock ((r :: rest).map Revision.entry) = entered
    at desk job reruns
  have same : view v'.prover = view v.prover := like.prover.view
  rw [← same] at outside inside
  have inbox : entered.1.desk.inbox = ⟨some (last.document, last.version), some edit⟩ := by
    rw [desk, ← Inbox.addAll_empty ends least, ← idle.inbox]
    rfl
  obtain ⟨settles, holds⟩ := drive_edited { entered.1 with world := v' } (by rw [desk]; rfl)
    (by rw [desk]; exact idle.alone) inbox o outside inside
  have goes : entered.1.goOn none =
      ({ entered.1 with world := v' } : Bench Ledger).drive none (entered.1.desk.proceed (.performed o e)) := by
    simp only [Bench.goOn, job, reruns]
  rw [goes]
  exact ⟨⟨settles.free, settles.alone, settles.inbox, settles.job⟩, holds⟩

end Bench

end Frontier
