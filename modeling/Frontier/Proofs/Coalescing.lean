import Frontier.Proofs.Delivery
import Frontier.Proofs.Frame
import Frontier.Proofs.Margin
import Frontier.Proofs.Stepping

/-!
# Edits at once, or one by one

Edits that come while a call holds the engine are retracted at once when it is done: the smallest of them, in the last
version of the document. An idle desk retracts each edit in its own version. Both take the verified region back to
where a statement ends up to the smallest edit. They differ in the document that says where this is: the last one, or
the first that takes the region back so far. Later ones do not move it forward again.
-/

namespace Frontier
open Text Ledger

namespace Text

theorem isPrefixOf_append {word text : List Char} (more : List Char) (begins : word.isPrefixOf text = true) :
    word.isPrefixOf (text ++ more) = true := by
  rw [List.isPrefixOf_iff_prefix] at begins ⊢
  exact begins.trans (List.prefix_append text more)

theorem occurs_append {word text : List Char} (more : List Char) (found : occurs word text = true) :
    occurs word (text ++ more) = true := by
  induction text with
  | nil =>
    obtain rfl : word = [] := by simpa [occurs] using found
    cases more <;> simp [occurs]
  | cons c rest ih =>
    simp only [occurs, Bool.or_eq_true, List.cons_append] at found ⊢
    rcases found with here | later
    · exact .inl (isPrefixOf_append more here)
    · exact .inr (ih later)

/-- What does not occur in a text does not occur in its beginning. -/
theorem absent_of_append {word text more : List Char} (absent : occurs word (text ++ more) = false) :
    occurs word text = false := by
  cases found : occurs word text with
  | false => rfl
  | true =>
    rw [occurs_append more found] at absent
    cases absent

end Text

namespace Echo

/-- What begins an accepted text is accepted. -/
theorem sound_begun {s s' : Statement} (begun : s.Begun s') (sound : Echo.sound s'.text = true) :
    Echo.sound s.text = true := by
  obtain ⟨extra, -, longer⟩ := begun
  rw [Echo.sound, Echo.crashes, Echo.fails, longer, Bool.and_eq_true, Bool.not_eq_true', Bool.not_eq_true'] at sound
  rw [Echo.sound, Echo.crashes, Echo.fails, absent_of_append sound.1, absent_of_append sound.2]
  rfl

end Echo

namespace Engine
open Statement
variable {old new : String} {k n : Nat}

theorem endOf_inj {doc : String} {j k : Nat} (first : j ≤ (Statement.all doc).length)
    (second : k ≤ (Statement.all doc).length) (same : endOf doc j = endOf doc k) : j = k := by
  have one := endOf_lt_iff first second
  have other := endOf_lt_iff second first
  omega

/-- The statements of a document that end in what an edit left of the verified region are accepted: they were before, or
begin a statement that was. -/
theorem soundTo_edited (same : SameStart n old new) (bound : k ≤ (Statement.all old).length) (sound : SoundTo old k)
    (inside : n < endOf old k) : (endingBy new n).length ≤ k ∧ SoundTo new (endingBy new n).length := by
  have few : (endingBy new n).length ≤ (Statement.all new).length := List.length_filter_le _ _
  have reached := endOf_endingBy new n
  -- The first statements that the documents share are among the verified ones.
  have shared : ∀ i ≤ (endingBy new n).length, (Statement.all old).take i = (Statement.all new).take i →
      i < k ∧ SoundTo new i := by
    intro i le equal
    have bound' := length_take equal (Nat.le_trans le few)
    have short : endOf old i ≤ n := by
      rw [endOf_take equal]
      exact Nat.le_trans (endOf_le le few) reached
    have lt : i < k := (endOf_lt_iff bound' bound).mp (Nat.lt_of_le_of_lt short inside)
    refine ⟨lt, ?_⟩
    rw [SoundTo, textsTo, ← equal]
    exact soundTo_le (Nat.le_of_lt lt) sound
  have within : ∀ s ∈ (allFrom 0 new.toList).take (endingBy new n).length, s.stop ≤ 0 + n := by
    intro s mem
    have mem : s ∈ (Statement.all new).take (endingBy new n).length := mem
    rw [← endingBy_eq, endingBy, List.mem_filter, decide_eq_true_eq] at mem
    rw [Nat.zero_add]
    exact mem.2
  have back : SameStart n new old := same.symm
  rcases allFrom_begins back.begins few within with equal | ⟨i, last, parts, -⟩
  · obtain ⟨lt, sound'⟩ := shared _ (Nat.le_refl _) equal
    exact ⟨Nat.le_of_lt lt, sound'⟩
  · rw [last] at few ⊢
    obtain ⟨lt, sound'⟩ := shared i (by omega) parts.same
    have found := List.getElem?_eq_getElem (show i < (Statement.all new).length from few)
    have found' := List.getElem?_eq_getElem (show i < (Statement.all old).length by omega)
    refine ⟨lt, soundTo_succ found sound' (Echo.sound_begun (parts.longer _ found _ found') ?_)⟩
    refine sound _ (List.mem_map_of_mem ?_)
    exact List.mem_take_iff_getElem.mpr ⟨i, by omega, rfl⟩

/-- Documents that begin alike agree on how many statements end up to a place in the beginning if they agree on where
the last of them ends. -/
theorem count_of_boundary (same : SameStart n old new)
    (boundary : endOf new (endingBy new n).length = endOf old (endingBy old n).length) :
    (endingBy new n).length = (endingBy old n).length := by
  have few : (endingBy old n).length ≤ (Statement.all old).length := List.length_filter_le _ _
  have few' : (endingBy new n).length ≤ (Statement.all new).length := List.length_filter_le _ _
  have closes : endOf old (endingBy old n).length = 0 ∨ ClosesAt new (endOf old (endingBy old n).length) := by
    rw [← boundary]
    rcases endOf_boundary few' with start | ⟨s, mem, stop⟩
    · exact .inl start
    · rw [stop]
      exact .inr (closesAt_of_mem mem)
  have equal := take_edited same few (endOf_endingBy old n) closes
  have kept : endOf new (endingBy old n).length = endOf old (endingBy old n).length := endOf_take equal
  exact endOf_inj few' (length_take equal few) (boundary.trans kept.symm)

/-! ## Retraction without synchrony -/

/-- The engine holds the first `k` statements of some document for verified, and its log goes with that. What the
process has accepted does not matter; but it has accepted all these texts once. -/
structure Footing (base : String) (k : Nat) (e : Engine) (v : View) : Prop where
  bound : k ≤ (Statement.all base).length
  few : k ≤ maxWord
  sound : SoundTo base k
  offset : e.offset = endOf base k
  proved : e.proved = k
  state : (Ready e v ∧ e.undo.Counts k ∧ v.id = k) ∨ (v.running = false ∧ v.scripts = [])

variable {base doc : String} {e : Engine} {v : View} {edit : Nat}

theorem footing_of_at (clear : Clear doc) (at' : At doc k e v) : Footing doc k e v where
  bound := at'.bound
  few := Nat.le_trans at'.bound clear.few
  sound := at'.sound
  offset := at'.offset
  proved := at'.proved
  state := .inl ⟨at'.toReady, at'.log, at'.id⟩

theorem Synced.footing (clear : Clear doc) (synced : Synced doc k e v) : Footing doc k e v := by
  rcases synced with at' | away
  · exact footing_of_at clear at'
  · have few := Nat.le_trans away.bound clear.few
    exact ⟨away.bound, few, away.sound, away.offset, away.proved, .inr ⟨away.dead, away.free⟩⟩

/-- A retraction takes the verified region back to where the last statement of the present document ends up to the
edit. -/
theorem retract_footing (clear : Clear doc) (reads : Reads doc e) (footing : Footing base k e v)
    (same : SameStart edit base doc) (inside : edit < e.offset) :
    (retract edit).Leads contract
      (fun _ e' v' => Reads doc e' ∧ Footing doc (endingBy doc edit).length e' v') (fun _ _ _ => False) e v := by
  have bound : (endingBy doc edit).length ≤ (Statement.all doc).length := List.length_filter_le _ _
  have boundary : e.outline.boundaryUpTo edit = endOf doc (endingBy doc edit).length := by
    rw [reads.outline, boundaryUpTo_outlineOf]
  have back : endOf doc (endingBy doc edit).length < e.offset := Nat.lt_of_le_of_lt (endOf_endingBy doc edit) inside
  have count := reads.countUpTo bound
  obtain ⟨le, sound⟩ := soundTo_edited same footing.bound footing.sound (by rwa [← footing.offset])
  have few := Nat.le_trans le footing.few
  simp only [retract, Act.leads_bind, Act.leads_get, inside, ↓reduceIte, boundary, backwardTo, back]
  have recovers : ∀ {e' : Engine} {v' : View}, Reads doc e' → v'.scripts = [] →
      (recoverTo (endOf doc (endingBy doc edit).length)).Leads contract
        (fun _ e'' v'' => Reads doc e'' ∧ Footing doc (endingBy doc edit).length e'' v'')
        (fun _ _ _ => False) e' v' := by
    intro e' v' reads' free
    refine (recoverTo_sound clear reads' free bound sound).mono ?_ (fun _ _ _ absurd => absurd)
    rintro _ e'' v'' ⟨at', -⟩
    exact ⟨at'.toReads, footing_of_at clear at'⟩
  rcases footing.state with ⟨ready, log, id⟩ | ⟨dead, free⟩
  · rcases Nat.lt_or_eq_of_le le with lt | all
    · by_cases refused : v.rejectsUndo = true
      · refine (tryUndo_refused ready log footing.proved (by omega) id footing.few refused).mono ?_
          (fun _ _ _ absurd => absurd.elim)
        rintro done _ _ ⟨rfl, r, some, rfl, rfl⟩
        simp only [Bool.not_false, ↓reduceIte]
        exact recovers ⟨reads.settings, reads.rules, reads.document, reads.outline⟩ ready.free
      · refine (tryUndo_granted ready log footing.proved (by omega) id footing.few (by simpa using refused)).mono ?_
          (fun _ _ _ absurd => absurd.elim)
        rintro done _ _ ⟨rfl, r, some, rfl, rfl⟩
        simp only [Bool.not_true, Bool.false_eq_true, ↓reduceIte, Act.leads_pure, count]
        have ready' := ready.answered some (Rules.standard.undo (endingBy doc edit).length) (endingBy doc edit).length
          (v.accepted.take (endingBy doc edit).length)
        exact ⟨⟨reads.settings, reads.rules, reads.document, reads.outline⟩, bound, few, sound, rfl, rfl,
          .inl ⟨ready'.moved _ _ _, log.undone le, rfl⟩⟩
    · refine (tryUndo_beyond ready log footing.proved (by omega)).mono ?_ (fun _ _ _ absurd => absurd.elim)
      rintro done _ _ ⟨rfl, rfl, rfl⟩
      simp only [Bool.not_false, ↓reduceIte]
      exact recovers reads ready.free
  · refine (tryUndo_away _ dead).mono ?_ (fun _ _ _ absurd => absurd.elim)
    rintro done _ _ ⟨rfl, rfl, rfl⟩
    simp only [Bool.not_false, ↓reduceIte]
    exact recovers reads free

/-- What the engine reads and what is going on do not matter. -/
theorem Footing.reading (footing : Footing base k e v) (document : String) (version : Int) (outline : Outline)
    (activity : Activity) (transactions : TransactionLog) :
    Footing base k { e with document, version, outline, activity, transactions } v := by
  refine { footing with state := ?_ }
  rcases footing.state with ⟨ready, log, id⟩ | dead
  · exact .inl ⟨{ ready with }, log, id⟩
  · exact .inr dead

/-- An edit of a new version is retracted in it. -/
theorem perform_footing (clear : Clear doc) (reads : Reads doc e) (footing : Footing base k e v)
    (same : SameStart edit base doc) (inside : edit < e.offset) :
    (e.perform (.retract edit)).Leads contract
      (fun p v' => (Reads doc p.2 ∧ Footing doc (endingBy doc edit).length p.2 v') ∧ p.2.text = e.text) v := by
  refine Dialogue.Leads.always ?_ (perform_keeps e (.retract edit))
  apply performing_leads (World.contract_quiet view) (.retract edit) fun _ e' v' =>
    Reads doc e' ∧ Footing doc (endingBy doc edit).length e' v'
  have begun : Reads doc (e.begun (.retract edit)) := { reads with outline := (reads.begun _).trans reads.outline }
  refine (retract_footing clear begun (footing.reading _ _ _ _ _) same inside).mono ?_ (fun _ _ _ absurd => absurd.elim)
  rintro _ e' v' ⟨reads', footing'⟩
  exact ⟨{ reads' with }, footing'.reading _ _ _ _ _⟩

/-- What ends up to an offset ends up to a smaller one as well if the last of it does. -/
theorem endingBy_of_reached {m : Nat} (reached : endOf doc (endingBy doc n).length ≤ m) (le : m ≤ n) :
    endingBy doc n = endingBy doc m := by
  have few : (endingBy doc n).length ≤ (Statement.all doc).length := List.length_filter_le _ _
  refine List.filter_congr fun s mem => ?_
  rw [decide_eq_decide]
  constructor
  · intro ends
    have kept : s ∈ endingBy doc n := List.mem_filter.mpr ⟨mem, by simpa using ends⟩
    rw [endingBy_eq, ← endingBy_endOf few] at kept
    have stop : s.stop ≤ endOf doc (endingBy doc n).length := by simpa using (List.mem_filter.mp kept).2
    exact Nat.le_trans stop reached
  · exact fun ends => Nat.le_trans ends le

end Engine

/-! ## One by one -/

/-- Each version agrees with the one before it up to its edit, and its statements are taken for statements. -/
def Follow : String → List Revision → Prop
  | _, [] => True
  | old, r :: rest => Clear r.document ∧ Statement.SameStart r.edit old r.document ∧ Follow r.document rest

theorem Follow.clear {old : String} {rs : List Revision} (follow : Follow old rs) {r : Revision} (mem : r ∈ rs) :
    Clear r.document := by
  induction rs generalizing old with
  | nil => cases mem
  | cons r' rest ih =>
    obtain ⟨clear, -, follow⟩ := follow
    rcases List.mem_cons.mp mem with rfl | mem
    · exact clear
    · exact ih follow mem

theorem Statement.SameStart.le {n m : Nat} {old new : String} (same : Statement.SameStart n old new) (le : m ≤ n) :
    Statement.SameStart m old new := by
  have cut := congrArg (·.extract 0 m) same
  simp only [ByteArray.extract_extract, Nat.zero_add, Nat.min_eq_left le] at cut
  exact cut

theorem Follow.same {old : String} {rs : List Revision} (follow : Follow old rs) {edit : Nat}
    (least : ∀ r ∈ rs, edit ≤ r.edit) {last : Revision} (ends : rs.getLast? = some last) :
    Statement.SameStart edit old last.document := by
  induction rs generalizing old with
  | nil => cases ends
  | cons r rest ih =>
    obtain ⟨-, same, follow⟩ := follow
    have here := same.le (least r List.mem_cons_self)
    cases rest with
    | nil =>
      cases ends
      exact here
    | cons r' rest => exact here.trans (ih follow (fun r' mem => least r' (List.mem_cons_of_mem r mem)) ends)

namespace Bench

/-- A version is delivered to an idle desk. -/
def deliver (b : Bench Ledger) (r : Revision) : Bench Ledger := b.edited r.document r.version r.edit

/-- Versions are delivered to an idle desk one by one. -/
def revised (b : Bench Ledger) (rs : List Revision) : Bench Ledger := rs.foldl deliver b

/-- The first version after which the verified region ends up to a byte, when versions are delivered one by one. -/
def turning (edit : Nat) : Bench Ledger → List Revision → Option Revision
  | _, [] => none
  | b, r :: rest => if (b.deliver r).desk.engine.offset ≤ edit then some r else turning edit (b.deliver r) rest

/-- Nothing is in progress. The engine has read a document that agrees, as far as the verified region goes, with one
whose first `k` statements it holds for verified. -/
structure Stands (base document : String) (k : Nat) (b : Bench Ledger) : Prop where
  idle : b.Idle
  reads : b.desk.engine.Reads document
  footing : b.desk.engine.Footing base k (view b.world.prover)
  same : Statement.SameStart b.desk.engine.offset base document

variable {b : Bench Ledger} {base document : String} {k edit : Nat} {r : Revision} {rs : List Revision}

theorem deliver_inside (stands : b.Stands base document k) (clear : Clear r.document)
    (fresh : b.desk.engine.version ≠ r.version) (same : Statement.SameStart r.edit document r.document)
    (inside : r.edit < b.desk.engine.offset) :
    (b.deliver r).Stands r.document r.document (endingBy r.document r.edit).length ∧
      (b.deliver r).desk.engine.version = r.version := by
  have reads := stands.reads.edited fresh r.document
  have footing : Engine.Footing base k (b.desk.engine.setDocument r.document r.version) (view b.world.prover) :=
    stands.footing.reading _ _ _ _ _
  have agrees := (stands.same.le (Nat.le_of_lt inside)).trans same
  obtain ⟨o, -, idle, ⟨reads', footing'⟩, text⟩ :=
    step_edit stands.idle inside (Engine.perform_footing clear reads footing agrees inside)
  exact ⟨⟨idle, reads', footing', rfl⟩, congrArg Prod.snd text⟩

theorem deliver_behind (stands : b.Stands base document k) (fresh : b.desk.engine.version ≠ r.version)
    (same : Statement.SameStart r.edit document r.document) (behind : b.desk.engine.offset ≤ r.edit) :
    (b.deliver r).Stands base r.document k ∧ (b.deliver r).desk.engine.version = r.version := by
  have outside : ∀ first ∈ some r.edit, b.desk.engine.offset ≤ first := by simpa using behind
  obtain ⟨idle, engine, prover⟩ := step_behind stands.idle r.document r.version outside
  have engine : (b.deliver r).desk.engine = b.desk.engine.setDocument r.document r.version := engine
  have prover : view (b.deliver r).world.prover = view b.world.prover := prover
  refine ⟨⟨idle, ?_, ?_, ?_⟩, by rw [engine]; rfl⟩
  · rw [engine]
    exact stands.reads.edited fresh r.document
  · rw [engine, prover]
    exact stands.footing.reading _ _ _ _ _
  · rw [engine]
    exact stands.same.trans (same.le behind)

/-- The region ends where the document says that tells what is verified. -/
theorem Stands.offset (stands : b.Stands base document k) : b.desk.engine.offset = endOf base k := stands.footing.offset

/-- Versions whose edits lie behind the verified region leave it alone. -/
theorem revised_behind (stands : b.Stands base document k) (follow : Follow document rs)
    (fresh : (b.desk.engine.version :: rs.map (·.version)).Nodup) (behind : ∀ r ∈ rs, b.desk.engine.offset ≤ r.edit) :
    ∃ last, (b.revised rs).Stands base last k := by
  induction rs generalizing b document with
  | nil => exact ⟨document, stands⟩
  | cons r rest ih =>
    obtain ⟨-, same, follow⟩ := follow
    obtain ⟨new, fresh⟩ := List.nodup_cons.mp fresh
    have other : b.desk.engine.version ≠ r.version := fun equal => new (by simp [equal])
    obtain ⟨stands', version⟩ := deliver_behind stands other same (behind r List.mem_cons_self)
    refine ih stands' follow (by rwa [version]) fun r' mem => ?_
    rw [stands'.offset, ← stands.offset]
    exact behind r' (List.mem_cons_of_mem r mem)

/-- When the smallest edit lies in the verified region, some version takes the region back to it; then it ends where the
last statement of that version ends up to the edit, and later versions leave it there. -/
theorem revised_back (stands : b.Stands base document k) (follow : Follow document rs)
    (fresh : (b.desk.engine.version :: rs.map (·.version)).Nodup) (least : ∀ r ∈ rs, edit ≤ r.edit)
    (among : ∃ r ∈ rs, r.edit = edit) (inside : edit < b.desk.engine.offset) {last : Revision}
    (ends : rs.getLast? = some last) :
    ∃ r, turning edit b rs = some r ∧ Statement.SameStart edit r.document last.document ∧
      ∃ document', (b.revised rs).Stands r.document document' (endingBy r.document edit).length := by
  induction rs generalizing b base document k with
  | nil => cases ends
  | cons r rest ih =>
    obtain ⟨clear, same, follow⟩ := follow
    obtain ⟨new, fresh⟩ := List.nodup_cons.mp fresh
    have other : b.desk.engine.version ≠ r.version := fun equal => new (by simp [equal])
    have least' : ∀ r' ∈ rest, edit ≤ r'.edit := fun r' mem => least r' (List.mem_cons_of_mem r mem)
    -- What a version leaves to later ones.
    have later : ∀ {base' : String} {k' : Nat}, (b.deliver r).Stands base' r.document k' →
        (b.deliver r).desk.engine.version = r.version → edit < (b.deliver r).desk.engine.offset → r.edit ≠ edit →
          ∃ r', turning edit b (r :: rest) = some r' ∧ Statement.SameStart edit r'.document last.document ∧
            ∃ document', (b.revised (r :: rest)).Stands r'.document document' (endingBy r'.document edit).length := by
      intro base' k' stands' version inside' unlike
      obtain ⟨r', mem, least''⟩ := among
      have mem : r' ∈ rest := by
        rcases List.mem_cons.mp mem with rfl | mem
        · exact absurd least'' unlike
        · exact mem
      have ends' : rest.getLast? = some last := by
        cases rest with
        | nil => cases mem
        | cons r'' more => exact ends
      rw [turning, if_neg (Nat.not_le.mpr inside')]
      exact ih stands' follow (by rwa [version]) least' ⟨r', mem, least''⟩ inside' ends'
    by_cases taken : r.edit < b.desk.engine.offset
    · obtain ⟨stands', version⟩ := deliver_inside stands clear other same taken
      by_cases short : (b.deliver r).desk.engine.offset ≤ edit
      · have kept := Engine.endingBy_of_reached (by rwa [← stands'.offset]) (least r List.mem_cons_self)
        have back : ∀ r' ∈ rest, (b.deliver r).desk.engine.offset ≤ r'.edit :=
          fun r' mem => Nat.le_trans short (least' r' mem)
        obtain ⟨document', stands''⟩ := revised_behind stands' follow (by rwa [version]) back
        rw [kept] at stands''
        refine ⟨r, by rw [turning, if_pos short], ?_, document', stands''⟩
        cases rest with
        | nil =>
          cases ends
          rfl
        | cons r' more => exact follow.same least' ends
      · refine later stands' version (Nat.not_le.mp short) ?_
        rintro rfl
        rw [stands'.offset] at short
        exact short (Engine.endOf_endingBy _ _)
    · obtain ⟨stands', version⟩ := deliver_behind stands other same (Nat.not_lt.mp taken)
      have offset : (b.deliver r).desk.engine.offset = b.desk.engine.offset := stands'.offset.trans stands.offset.symm
      exact later stands' version (by rwa [offset]) (by omega)

/-! ## At once -/

/-- After an intent that nothing came in between the engine is as its operation left it. -/
theorem after_engine (idle : b.Idle) {i : Intent} {work : Dialogue Finding} {w : World Ledger} {o : Outcome}
    {e : Engine} (works : (b.desk.perform mainTicket .acting i).work = some work)
    (runs : b.world.run none work = (w, .inl (.performed o e))) : (b.after i).desk.engine = e := by
  have proceeds := proceed_acting idle.inbox mainTicket i o e
  have drives := drive_then { b with answers := [] } works runs proceeds rfl idle.alone
  have calls : ({ b with answers := [] } : Bench Ledger).call none mainTicket (.intent i) =
      ({ b with answers := [] } : Bench Ledger).drive none (b.desk.perform mainTicket .acting i) := by
    simp only [call, call_intent idle mainTicket i, works, Option.isSome_some, ↓reduceIte]
  rw [after, step_call b _ _ (calls.trans drives) rfl]
  rfl

/-- New versions that come during an intent that leaves the offset alone. Edits behind the verified region do not touch
it; otherwise it goes back to where the last statement of the last version ends up to the smallest edit. -/
theorem during_stands (clear : Clear base) (rests : b.Rests base k) (follow : Follow base rs) {last : Revision}
    (ends : rs.getLast? = some last) (fresh : b.desk.engine.version ≠ last.version)
    (least : (rs.map (·.edit)).min? = some edit) {i : Intent}
    (stays : (b.after i).desk.engine.offset = b.desk.engine.offset) (interrupts : b.Interrupts i rs) :
    (b.during i rs).Idle ∧
      (b.desk.engine.offset ≤ edit →
        (b.during i rs).desk.engine.offset = b.desk.engine.offset ∧ (b.during i rs).desk.engine.proved = k) ∧
      (edit < b.desk.engine.offset →
        (b.during i rs).desk.engine.Footing last.document (endingBy last.document edit).length
          (view (b.during i rs).world.prover)) := by
  obtain ⟨idle, synced⟩ := rests
  have performs := Dialogue.Leads.always (Engine.perform_leads clear synced i) (Engine.perform_keeps b.desk.engine i)
  have leads : (b.desk.engine.perform i >>= fun p => pure (Finding.performed p.1 p.2)).Leads contract
      (fun f v => ∃ o e, f = .performed o e ∧ (∃ j, Engine.Synced base j e v) ∧ e.text = b.desk.engine.text)
      (view b.world.prover) := by
    rw [Dialogue.leads_bind]
    exact performs.mono fun p v holds => ⟨p.1, p.2, rfl, holds⟩
  obtain ⟨w, _, runs, o, e, rfl, ⟨j, synced'⟩, text⟩ := World.run_leads leads
  have offset : e.offset = b.desk.engine.offset := by rw [← stays, after_engine idle rfl runs]
  have footing := synced.footing clear
  have footing' := synced'.footing clear
  obtain rfl : j = k := by
    refine Engine.endOf_inj footing'.bound footing.bound ?_
    rw [← footing'.offset, ← footing.offset, offset]
  have version : e.version ≠ last.version := by rwa [show e.version = _ from congrArg Prod.snd text]
  have smallest := List.min?_eq_some_iff.mp least
  have same : Statement.SameStart edit base last.document :=
    follow.same (fun r mem => smallest.2 r.edit (List.mem_map_of_mem mem)) ends
  refine during_settles (fun e' v' =>
    (b.desk.engine.offset ≤ edit → e'.offset = b.desk.engine.offset ∧ e'.proved = j) ∧
      (edit < b.desk.engine.offset → e'.Footing last.document (endingBy last.document edit).length v'))
    idle rfl runs interrupts ends least ?_ ?_
  · intro behind
    rw [offset] at behind
    exact ⟨fun _ => ⟨offset, footing'.proved⟩, fun inside => absurd behind (Nat.not_le.mpr inside)⟩
  · intro inside
    have clear' := follow.clear (List.mem_of_getLast? ends)
    have reads := synced'.toReads.edited version last.document
    refine (Engine.perform_footing clear' reads (footing'.reading _ _ _ _ _) same inside).mono ?_
    rintro p v' ⟨⟨-, footing''⟩, -⟩
    rw [offset] at inside
    exact ⟨fun behind => absurd behind (Nat.not_le.mpr inside), fun _ => footing''⟩

end Bench

/-- New versions that come while an intent holds the engine, and leaves the offset alone, come to the same as when they
are delivered one by one to an idle desk if and only if the smallest edit lies behind the verified region, or the
version that takes the region back to it when they are delivered one by one agrees with the last version on where the
last statement ends up to it. -/
theorem coalesced_like_one_by_one_iff {old : String} (clear : Clear old) {version : Int} {b : Bench Ledger}
    (reached : b.Reached old version) {rs : List Revision} (follow : Follow old rs)
    (fresh : (b.desk.engine.version :: rs.map (·.version)).Nodup) {last : Revision} (ends : rs.getLast? = some last)
    {edit : Nat} (least : (rs.map (·.edit)).min? = some edit) {i : Intent}
    (stays : (b.after i).desk.engine.offset = b.desk.engine.offset) (interrupts : b.Interrupts i rs) :
    (b.during i rs).Idle ∧ (b.revised rs).Idle ∧
      ((b.during i rs).desk.engine.offset = (b.revised rs).desk.engine.offset ∧
          (b.during i rs).desk.engine.proved = (b.revised rs).desk.engine.proved ↔
        b.desk.engine.offset ≤ edit ∨ ∃ r ∈ b.turning edit rs,
          (outlineOf r.document 0).boundaryUpTo edit = (outlineOf last.document 0).boundaryUpTo edit) := by
  obtain ⟨k, idle, synced⟩ := reached.rests clear
  have stands : b.Stands old old k := ⟨idle, synced.toReads, synced.footing clear, rfl⟩
  have other : b.desk.engine.version ≠ last.version := by
    rintro equal
    refine (List.nodup_cons.mp fresh).1 ?_
    rw [equal]
    exact List.mem_map_of_mem (List.mem_of_getLast? ends)
  have smallest := List.min?_eq_some_iff.mp least
  have least' : ∀ r ∈ rs, edit ≤ r.edit := fun r mem => smallest.2 r.edit (List.mem_map_of_mem mem)
  obtain ⟨idle', behind, inside⟩ := Bench.during_stands clear ⟨idle, synced⟩ follow ends other least stays interrupts
  rcases Nat.lt_or_ge edit b.desk.engine.offset with lies | outside
  · obtain ⟨r, turns, same, document, stands'⟩ :=
      Bench.revised_back stands follow fresh least' (List.mem_map.mp smallest.1) lies ends
    have footing := inside lies
    refine ⟨idle', stands'.idle, ?_⟩
    rw [footing.offset, footing.proved, stands'.offset, stands'.footing.proved]
    simp only [Engine.boundaryUpTo_outlineOf, turns, Option.mem_some_iff, exists_eq_left']
    constructor
    · rintro ⟨ends, -⟩
      exact .inr ends.symm
    · rintro (outside | ends)
      · exact absurd lies (Nat.not_lt.mpr outside)
      · exact ⟨ends.symm, Engine.count_of_boundary same ends.symm⟩
  · obtain ⟨document, stands'⟩ :=
      Bench.revised_behind stands follow fresh fun r mem => Nat.le_trans outside (least' r mem)
    obtain ⟨offset, proved⟩ := behind outside
    refine ⟨idle', stands'.idle, ?_⟩
    rw [offset, proved, stands'.offset, stands'.footing.proved, stands.offset]
    simp only [true_and, true_iff]
    left
    rwa [← stands.offset]

theorem last_fails_clear : Clear "a. b. fail." where
  noUndo := by decide +kernel
  plain := by decide +kernel
  fits := by decide +kernel

/-- A statement is retyped, and another one added, while the step to the next one fails. -/
theorem retyped_statement_coalesces : ∃ b : Bench Ledger, b.Reached "a. b. fail." 1 ∧
    ∃ rs : List Revision, rs = [⟨"a. c. fail.", 2, 3, 20⟩, ⟨"a. c. d. fail.", 3, 5, 30⟩] ∧
      b.Interrupts .stepForward rs ∧ b.desk.engine.offset = 5 ∧ (b.during .stepForward rs).desk.engine.offset = 2 ∧
        (b.during .stepForward rs).Idle ∧ (b.revised rs).Idle ∧
          ((b.during .stepForward rs).desk.engine.offset = (b.revised rs).desk.engine.offset ∧
              (b.during .stepForward rs).desk.engine.proved = (b.revised rs).desk.engine.proved ↔
            b.desk.engine.offset ≤ 3 ∨ ∃ r ∈ b.turning 3 rs,
              (outlineOf r.document 0).boundaryUpTo 3 = (outlineOf "a. c. d. fail." 0).boundaryUpTo 3) := by
  have reached : ((Bench.opened .standard "a. b. fail." 1).play [.intent (.goToCursor 5)]).Reached "a. b. fail." 1 :=
    ⟨.standard, _, Desk.ofSettings_default, rfl⟩
  have interrupts : ((Bench.opened .standard "a. b. fail." 1).play [.intent (.goToCursor 5)]).Interrupts .stepForward
      [⟨"a. c. fail.", 2, 3, 20⟩, ⟨"a. c. d. fail.", 3, 5, 30⟩] := by
    rw [Bench.Interrupts]
    decide +kernel
  have follow : Follow "a. b. fail." [⟨"a. c. fail.", 2, 3, 20⟩, ⟨"a. c. d. fail.", 3, 5, 30⟩] := by
    refine ⟨⟨by decide +kernel, by decide +kernel, by decide +kernel⟩, ?_,
      ⟨by decide +kernel, by decide +kernel, by decide +kernel⟩, ?_, trivial⟩
    · rw [Statement.SameStart]
      decide +kernel
    · rw [Statement.SameStart]
      decide +kernel
  exact ⟨_, reached, _, rfl, interrupts, by decide +kernel, by decide +kernel,
    coalesced_like_one_by_one_iff last_fails_clear reached follow (by decide +kernel) rfl rfl (by decide +kernel)
      interrupts⟩

/-- A statement is glued to the next one and separated again. At once this is no edit of it, one by one it is. -/
theorem glued_statement_not_coalesced : ¬ ∀ {old : String}, Clear old → ∀ {version : Int} {b : Bench Ledger},
    b.Reached old version → b.world.prover.echo.running = true → b.desk.engine.undo.valid = true →
      ∀ {rs : List Revision}, Follow old rs → (b.desk.engine.version :: rs.map (·.version)).Nodup →
        ∀ {i : Intent}, (b.after i).desk.engine.offset = b.desk.engine.offset → b.Interrupts i rs →
          (b.during i rs).desk.engine.offset = (b.revised rs).desk.engine.offset ∧
            (b.during i rs).desk.engine.proved = (b.revised rs).desk.engine.proved := by
  intro coalesces
  have reached : ((Bench.opened .standard "a. b. fail." 1).play [.intent (.goToCursor 5)]).Reached "a. b. fail." 1 :=
    ⟨.standard, _, Desk.ofSettings_default, rfl⟩
  have interrupts : ((Bench.opened .standard "a. b. fail." 1).play [.intent (.goToCursor 5)]).Interrupts .stepForward
      [⟨"a.x b. fail.", 2, 2, 20⟩, ⟨"a. b. fail.", 3, 2, 30⟩] := by
    rw [Bench.Interrupts]
    decide +kernel
  have follow : Follow "a. b. fail." [⟨"a.x b. fail.", 2, 2, 20⟩, ⟨"a. b. fail.", 3, 2, 30⟩] := by
    refine ⟨⟨by decide +kernel, by decide +kernel, by decide +kernel⟩, ?_, last_fails_clear, ?_, trivial⟩
    · rw [Statement.SameStart]
      decide +kernel
    · rw [Statement.SameStart]
      decide +kernel
  have same := coalesces last_fails_clear reached (by decide +kernel) (by decide +kernel) follow (by decide +kernel)
    (by decide +kernel) interrupts
  exact absurd same.1 (by decide +kernel)

end Frontier
