import Frontier.Json.Report
import Frontier.Proofs.JsonForm
import Frontier.Proofs.Timestamp
import Frontier.Proofs.Uuid

/-!
# Reports read back

Everything that a host is told is read back from its JSON text, as long as its numbers have the width that they are kept
in. The members of a notification may stand in either order: if its data come first, they are kept until the kind is known,
and nothing that a notification says is lost by that.
-/

namespace Frontier
open Json (Kept Exact scan? print write parse?_write present pick?_perm pick?_present kept_bool kept_string kept_nat
  kept_int kept_list kept_record named?_name forall_present exact_member exact_member? exact_members exact_option
  need_kept may_kept may_left_out member member? fields?)
open Json.Form (encode decode?)
open Text (maxWord)

/-! ## Names and stamps -/

theorem Reason.kept (r : Reason) : Kept r := ⟨.text _, nofun, named?_name (by decide) (by cases r <;> decide)⟩

theorem Activity.kept (a : Activity) : Kept a := ⟨.text _, nofun, named?_name (by decide) (by cases a <;> decide)⟩

theorem Notification.Kind.kept (k : Notification.Kind) : Kept k :=
  ⟨.text _, nofun, named?_name (by decide) (by cases k <;> decide)⟩

theorem Uuid.kept (u : Uuid) : Kept u := ⟨.text _, nofun, Uuid.parse?_chars u⟩

/-- The year has four digits. -/
def Timestamp.Sized (t : Timestamp) : Prop := 0 ≤ t.year ∧ t.year ≤ 9999

theorem Timestamp.kept {t : Timestamp} (sized : t.Sized) : Kept t :=
  ⟨.text _, nofun, Timestamp.parse?_chars sized.1 sized.2⟩

/-! ## Records

A record is read back when each of its numbers has the width of its field. -/

/-- Both offsets are words. -/
def Statement.Sized (s : Statement) : Prop := s.start ≤ maxWord ∧ s.stop ≤ maxWord

theorem Statement.kept {s : Statement} (sized : s.Sized) : Kept s := by
  have text := kept_string s.text
  have start := kept_nat sized.1
  have stop := kept_nat sized.2
  refine kept_record [member "text" s.text, member "start_offset" s.start, member "end_offset" s.stop]
    rfl ?_ (by simp [member]) fun j fields => ?_
  · simp only [List.forall_mem_cons]
    exact ⟨exact_member text.exact, exact_member start.exact, exact_member stop.exact, nofun⟩
  · simp only [List.map_cons, List.map_nil, member] at fields
    simp only [decode?, fields, need_kept text, need_kept start, need_kept stop, Option.bind_eq_bind, Option.bind_some]

/-- The id is a word. -/
def Marker.Sized (m : Marker) : Prop := m.id ≤ maxWord

theorem Marker.kept {m : Marker} (sized : m.Sized) : Kept m := by
  have id := kept_nat sized
  have tag := kept_string m.tag
  refine kept_record [member "sequence_id" m.id, member "mode_tag" m.tag] rfl ?_ (by simp [member])
    fun j fields => ?_
  · simp only [List.forall_mem_cons]
    exact ⟨exact_member id.exact, exact_member tag.exact, nofun⟩
  · simp only [List.map_cons, List.map_nil, member] at fields
    simp only [decode?, fields, need_kept id, need_kept tag, Option.bind_eq_bind, Option.bind_some]

/-- The marker's id is a word. -/
def Segment.Sized (s : Segment) : Prop := s.marker.Sized

theorem Segment.kept {s : Segment} (sized : s.Sized) : Kept s := by
  have output := kept_string s.output
  have marker := Marker.kept sized
  refine kept_record [member "output" s.output, member "marker" s.marker] rfl ?_ (by simp [member])
    fun j fields => ?_
  · simp only [List.forall_mem_cons]
    exact ⟨exact_member output.exact, exact_member marker.exact, nofun⟩
  · simp only [List.map_cons, List.map_nil, member] at fields
    simp only [decode?, fields, need_kept output, need_kept marker, Option.bind_eq_bind, Option.bind_some]

/-- All state numbers are words. -/
def UndoLog.Snapshot.Sized (s : UndoLog.Snapshot) : Prop := s.current ≤ maxWord ∧ ∀ n ∈ s.before, n ≤ maxWord

theorem UndoLog.Snapshot.kept {s : UndoLog.Snapshot} (sized : s.Sized) : Kept s := by
  have current := kept_nat sized.1
  have before := kept_list fun n mem => kept_nat (sized.2 n mem)
  have valid := kept_bool s.valid
  have reason : ∀ r ∈ s.reason, Kept r := fun r _ => kept_string r
  refine kept_record [member "current_state_id" s.current, member "pre_state_id_by_statement_index" s.before,
    member "valid" s.valid, member? "invalid_reason" s.reason] rfl ?_ (by simp [member, member?]) fun j fields => ?_
  · simp only [List.forall_mem_cons]
    exact ⟨exact_member current.exact, exact_member before.exact, exact_member valid.exact, exact_member? reason, nofun⟩
  · simp only [List.map_cons, List.map_nil, member, member?] at fields
    simp only [decode?, fields, need_kept current, need_kept before, need_kept valid, may_left_out reason,
      Option.bind_eq_bind, Option.bind_some]

/-- The id is a word. -/
def Transaction.Sized (t : Transaction) : Prop := t.id ≤ maxWord

theorem Transaction.kept {t : Transaction} (sized : t.Sized) : Kept t := by
  have id := kept_nat sized
  have reason := t.reason.kept
  refine kept_record [member "id" t.id, member "reason" t.reason] rfl ?_ (by simp [member]) fun j fields => ?_
  · simp only [List.forall_mem_cons]
    exact ⟨exact_member id.exact, exact_member reason.exact, nofun⟩
  · simp only [List.map_cons, List.map_nil, member] at fields
    simp only [decode?, fields, need_kept id, need_kept reason, Option.bind_eq_bind, Option.bind_some]

/-- The offset is a word, if there is one. -/
def Outcome.Sized (o : Outcome) : Prop := ∀ n ∈ o.offset, n ≤ maxWord

theorem Outcome.kept {o : Outcome} (sized : o.Sized) : Kept o := by
  have success := kept_bool o.success
  have error : ∀ e ∈ o.error, Kept e := fun e _ => kept_string e
  have offset : ∀ n ∈ o.offset, Kept n := fun n mem => kept_nat (sized n mem)
  refine kept_record [member "success" o.success, member? "error" o.error, member? "execution_offset" o.offset]
    rfl ?_ (by simp [member, member?]) fun j fields => ?_
  · simp only [List.forall_mem_cons]
    exact ⟨exact_member success.exact, exact_member? error, exact_member? offset, nofun⟩
  · simp only [List.map_cons, List.map_nil, member, member?] at fields
    simp only [decode?, fields, need_kept success, may_left_out error, may_left_out offset, Option.bind_eq_bind,
      Option.bind_some]

/-- The offset and the count are words. -/
def Status.Sized (s : Status) : Prop := s.offset ≤ maxWord ∧ s.proved ≤ maxWord

theorem Status.kept {s : Status} (sized : s.Sized) : Kept s := by
  have activity := s.activity.kept
  have offset := kept_nat sized.1
  have proved := kept_nat sized.2
  have valid := kept_bool s.undoValid
  have running := kept_bool s.running
  refine kept_record [member "state" s.activity, member "execution_offset" s.offset,
    member "statements_proved" s.proved, member "tracker_valid" s.undoValid, member "session_running" s.running]
    rfl ?_ (by simp [member]) fun j fields => ?_
  · simp only [List.forall_mem_cons]
    exact ⟨exact_member activity.exact, exact_member offset.exact, exact_member proved.exact, exact_member valid.exact,
      exact_member running.exact, nofun⟩
  · simp only [List.map_cons, List.map_nil, member] at fields
    simp only [decode?, fields, need_kept activity, need_kept offset, need_kept proved, need_kept valid,
      need_kept running, Option.bind_eq_bind, Option.bind_some]

/-- An exit code of 32 bits, or none. -/
def SizedCode (code : Option Int) : Prop := ∀ n ∈ code, -2147483648 ≤ n ∧ n ≤ 2147483647

theorem SizedCode.kept {code : Option Int} (sized : SizedCode code) : ∀ n ∈ code, Kept n :=
  fun n mem => kept_int (sized n mem).1 (sized n mem).2

/-- The exit code has 32 bits, if there is one. -/
def ExitNotice.Sized (n : ExitNotice) : Prop := SizedCode n.code

theorem ExitNotice.kept {n : ExitNotice} (sized : n.Sized) : Kept n := by
  have session := n.session.kept
  have code := SizedCode.kept sized
  have expected := kept_bool n.expected
  refine kept_record [member "session_id" n.session, member "code" n.code, member "expected" n.expected]
    rfl ?_ (by simp [member]) fun j fields => ?_
  · simp only [List.forall_mem_cons]
    exact ⟨exact_member session.exact, exact_member (exact_option code), exact_member expected.exact, nofun⟩
  · simp only [List.map_cons, List.map_nil, member] at fields
    simp only [decode?, fields, need_kept session, may_kept code, need_kept expected, Option.bind_eq_bind,
      Option.bind_some]

/-- All numbers are words, and the year has four digits. -/
structure Publication.Sized (p : Publication) : Prop where
  transaction : p.transaction ≤ maxWord
  proved : p.proved ≤ maxWord
  offset : p.offset ≤ maxWord
  time : p.time.Sized

theorem Publication.kept {p : Publication} (sized : p.Sized) : Kept p := by
  have transaction := kept_nat sized.transaction
  have reason := p.reason.kept
  have success := kept_bool p.success
  have error : ∀ e ∈ p.error, Kept e := fun e _ => kept_string e
  have output := kept_string p.output
  have proved := kept_nat sized.proved
  have offset := kept_nat sized.offset
  have time := Timestamp.kept sized.time
  refine kept_record [member "transaction_id" p.transaction, member "reason" p.reason,
    member "success" p.success, member? "error" p.error, member "output" p.output,
    member "statements_proved" p.proved, member "execution_offset" p.offset, member "timestamp" p.time]
    rfl ?_ (by simp [member, member?]) fun j fields => ?_
  · simp only [List.forall_mem_cons]
    exact ⟨exact_member transaction.exact, exact_member reason.exact, exact_member success.exact, exact_member? error,
      exact_member output.exact, exact_member proved.exact, exact_member offset.exact, exact_member time.exact, nofun⟩
  · simp only [List.map_cons, List.map_nil, member, member?] at fields
    simp only [decode?, fields, need_kept transaction, need_kept reason, need_kept success, may_left_out error,
      need_kept output, need_kept proved, need_kept offset, need_kept time, Option.bind_eq_bind, Option.bind_some]

/-! ## Notifications -/

namespace Notification

/-- Every number has the width of its field. -/
def Sized : Notification → Prop
  | .offsetChanged offset proved => offset ≤ maxWord ∧ proved ≤ maxWord
  | .proofState p => p.Sized
  | .rawOutput _ => True
  | .processExited _ code _ => SizedCode code

/-- A value without parts. -/
def IsScalar : Json → Prop
  | .null | .bool _ | .int _ | .text _ => True
  | _ => False

theorem keepableMembers_scalar {ms : List (List Char × Json)} (scalar : ∀ m ∈ ms, IsScalar m.2) (depth : Nat) :
    keepableMembers depth ms = true := by
  induction ms with
  | nil => rfl
  | cons m more ih =>
    obtain ⟨first, others⟩ := List.forall_mem_cons.mp scalar
    obtain ⟨key, x⟩ := m
    have keeps : keepable depth x = true := by cases x <;> first | rfl | exact first.elim
    rw [keepableMembers, keeps, ih others, Bool.and_self]

theorem settleName_scalar {x : Json} (scalar : IsScalar x) : settleName x = x := by
  cases x <;> first | rfl | exact scalar.elim

/-- An object of scalars is read as it is, wherever it stands. -/
theorem dataInOrder?_scalar (ms : List (List Char × Json)) {data : List (List Char × Json)}
    (scalar : ∀ m ∈ data, IsScalar m.2) : dataInOrder? ms (.object data) = some (.object data) := by
  have keeps : keepable 126 (.object data) = true := by simp [keepable, keepableMembers_scalar scalar]
  have settled : settle (.object data) = .object data := by
    refine congrArg Json.object ((List.map_congr_left fun m mem => ?_).trans (List.map_id data))
    exact congrArg (Prod.mk m.1) (settleName_scalar (scalar m mem))
  simp only [dataInOrder?, keeps, settled, ↓reduceIte, ite_self]
  split <;> rfl

theorem data_scalar (n : Notification) : ∃ data, n.data = .object data ∧ ∀ m ∈ data, IsScalar m.2 := by
  cases n with
  | offsetChanged offset proved => exact ⟨_, rfl, forall_present (by simp [member, IsScalar, encode])⟩
  | proofState p => exact ⟨_, rfl, forall_present (by simp [member, member?, IsScalar, encode])⟩
  | rawOutput text => exact ⟨_, rfl, forall_present (by simp [member, IsScalar, encode])⟩
  | processExited session code restart =>
    cases code <;> exact ⟨_, rfl, forall_present (by simp [member, IsScalar, encode])⟩

theorem exact_data {n : Notification} (sized : n.Sized) : Exact n.data := by
  cases n with
  | offsetChanged offset proved =>
    refine exact_members ?_
    simp only [List.forall_mem_cons]
    exact ⟨exact_member (kept_nat sized.1).exact, exact_member (kept_nat sized.2).exact, nofun⟩
  | proofState p => exact (Publication.kept sized).exact
  | rawOutput text =>
    refine exact_members ?_
    simp only [List.forall_mem_cons]
    exact ⟨exact_member (kept_string text).exact, nofun⟩
  | processExited session code restart =>
    refine exact_members ?_
    simp only [List.forall_mem_cons]
    exact ⟨exact_member session.kept.exact, exact_member (exact_option (SizedCode.kept sized)),
      exact_member (kept_bool restart).exact, nofun⟩

/-- What a notification says is read as that, once its kind is known. -/
theorem ofData?_data {n : Notification} (sized : n.Sized) : ofData? n.kind n.data = some n := by
  cases n with
  | offsetChanged offset proved =>
    have fields : object? ["offset", "statements_proved"] (data (.offsetChanged offset proved)) =
        some [some (encode offset), some (encode proved)] :=
      pick?_present [member "offset" offset, member "statements_proved" proved] (by simp [member])
    simp only [kind, ofData?, fields, need_kept (kept_nat sized.1), need_kept (kept_nat sized.2), Option.bind_eq_bind,
      Option.bind_some]
  | proofState p => exact congrArg (Option.map proofState) (Publication.kept sized).read
  | rawOutput text =>
    have fields : object? ["text"] (data (.rawOutput text)) = some [some (encode text)] :=
      pick?_present [member "text" text] (by simp [member])
    simp only [kind, ofData?, fields, need_kept (kept_string text), Option.bind_eq_bind, Option.bind_some]
  | processExited session code restart =>
    have fields : object? ["session_id", "code", "restart_available"] (data (.processExited session code restart)) =
        some [some (encode session), some (encode code), some (encode restart)] :=
      pick?_present [member "session_id" session, member "code" code, member "restart_available" restart]
        (by simp [member])
    simp only [kind, ofData?, fields, need_kept session.kept, may_kept (SizedCode.kept sized),
      need_kept (kept_bool restart), Option.bind_eq_bind, Option.bind_some]

/-- The kind and the data may stand in either order. -/
theorem kept_perm {n : Notification} (sized : n.Sized) {ms : List (List Char × Json)}
    (perm : ms.Perm (present [member "type" n.kind, ("data", some n.data)])) :
    Exact (.object ms) ∧ decode? (.object ms) = some n := by
  have exact : ∀ m ∈ present [member "type" n.kind, ("data", some n.data)], Exact m.2 := by
    refine forall_present ?_
    simp only [List.forall_mem_cons]
    refine ⟨exact_member n.kind.kept.exact, ?_, nofun⟩
    rintro j ⟨⟩
    exact exact_data sized
  refine ⟨.object fun m mem => exact m (perm.mem_iff.mp mem), ?_⟩
  have fields : fields? ["type", "data"] (.object ms) = some [some (encode n.kind), some n.data] :=
    (pick?_perm _ perm).trans (pick?_present [member "type" n.kind, ("data", some n.data)] (by simp [member]))
  obtain ⟨data, same, scalar⟩ := n.data_scalar
  have inOrder : dataInOrder? ms n.data = some n.data := by
    rw [same]
    exact dataInOrder?_scalar ms scalar
  simp only [decode?, fields, inOrder, need_kept n.kind.kept, ofData?_data sized, Option.bind_eq_bind, Option.bind_some]

end Notification

/-- An object with its members in the opposite order. -/
def Json.turned : Json → Json
  | .object ms => .object ms.reverse
  | x => x

theorem Notification.kept {n : Notification} (sized : n.Sized) : Kept n :=
  have both := Notification.kept_perm sized (List.Perm.refl _)
  ⟨both.1, nofun, both.2⟩

theorem Notification.scan?_turned {n : Notification} (sized : n.Sized) :
    scan? (String.ofList (write (encode n).turned)) = some n := by
  obtain ⟨exact, read⟩ := Notification.kept_perm sized (List.reverse_perm _)
  rw [scan?, String.toList_ofList]
  exact (congrArg (Option.bind · decode?) (parse?_write exact)).trans read

/-- Every report is read back from its text, with all its strings, words, exit codes and missing values. A notification is
also read back when its data come before its kind. -/
theorem reports_read_back :
    (∀ o : Outcome, o.Sized → scan? (print o) = some o) ∧
      (∀ s : Status, s.Sized → scan? (print s) = some s) ∧
      (∀ n : Notification, n.Sized →
        scan? (print n) = some n ∧ scan? (String.ofList (write (encode n).turned)) = some n) ∧
      (∀ s : UndoLog.Snapshot, s.Sized → scan? (print s) = some s) ∧
      (∀ s : Statement, s.Sized → scan? (print s) = some s) ∧
      (∀ m : Marker, m.Sized → scan? (print m) = some m) ∧
      (∀ s : Segment, s.Sized → scan? (print s) = some s) ∧
      (∀ t : Transaction, t.Sized → scan? (print t) = some t) ∧
      ∀ n : ExitNotice, n.Sized → scan? (print n) = some n :=
  ⟨fun _ sized => (Outcome.kept sized).scan?_print, fun _ sized => (Status.kept sized).scan?_print,
    fun _ sized => ⟨(Notification.kept sized).scan?_print, Notification.scan?_turned sized⟩,
    fun _ sized => (UndoLog.Snapshot.kept sized).scan?_print, fun _ sized => (Statement.kept sized).scan?_print,
    fun _ sized => (Marker.kept sized).scan?_print, fun _ sized => (Segment.kept sized).scan?_print,
    fun _ sized => (Transaction.kept sized).scan?_print, fun _ sized => (ExitNotice.kept sized).scan?_print⟩

/-- Texts with control characters, the greatest words, the least exit code, an exit without a code, missing errors and
offsets, and a leap second with a fraction, told of in either order. -/
theorem awkward_reports_read_back :
    scan? (print (⟨false, some "\x00\"\\\x1f", none⟩ : Outcome)) = some (⟨false, some "\x00\"\\\x1f", none⟩ : Outcome) ∧
      scan? (print (⟨.recovering, 18446744073709551615, 0, true, false⟩ : Status)) =
        some (⟨.recovering, 18446744073709551615, 0, true, false⟩ : Status) ∧
      scan? (print (Notification.proofState ⟨1, .reset, true, none, "\n\u2028\x7f", 2, 3,
          ⟨0, 2, 29, 23, 59, 60, 120000000, by decide⟩⟩)) =
        some (Notification.proofState ⟨1, .reset, true, none, "\n\u2028\x7f", 2, 3,
          ⟨0, 2, 29, 23, 59, 60, 120000000, by decide⟩⟩) ∧
      scan? (String.ofList (write (encode (Notification.processExited (.ofNat 7) (some (-2147483648)) true)).turned)) =
        some (Notification.processExited (.ofNat 7) (some (-2147483648)) true) ∧
      scan? (print (⟨5, [18446744073709551615, 3], false, some "\t"⟩ : UndoLog.Snapshot)) =
        some (⟨5, [18446744073709551615, 3], false, some "\t"⟩ : UndoLog.Snapshot) ∧
      scan? (print (⟨"auto.", 7, 12⟩ : Statement)) = some (⟨"auto.", 7, 12⟩ : Statement) ∧
      scan? (print (⟨4, "[\x08"⟩ : Marker)) = some (⟨4, "[\x08"⟩ : Marker) ∧
      scan? (print (⟨"\x0c", ⟨4, "|"⟩⟩ : Segment)) = some (⟨"\x0c", ⟨4, "|"⟩⟩ : Segment) ∧
      scan? (print (⟨0, .goToCursor⟩ : Transaction)) = some (⟨0, .goToCursor⟩ : Transaction) ∧
      scan? (print (⟨.ofNat 7, none, true⟩ : ExitNotice)) = some (⟨.ofNat 7, none, true⟩ : ExitNotice) := by
  obtain ⟨outcome, status, notification, snapshot, statement, marker, segment, transaction, exit⟩ := reports_read_back
  have code : (Notification.processExited (.ofNat 7) (some (-2147483648)) true).Sized := by
    rintro n ⟨⟩
    decide
  refine ⟨outcome _ nofun, status _ ⟨by decide, by decide⟩, (notification _ ?_).1, (notification _ code).2,
    snapshot _ ⟨by decide, by decide⟩, statement _ ⟨by decide, by decide⟩, marker _ ?_, segment _ ?_, transaction _ ?_,
    exit _ nofun⟩
  · exact ⟨by decide, by decide, by decide, by decide, by decide⟩
  · show 4 ≤ maxWord
    decide
  · show 4 ≤ maxWord
    decide
  · show 0 ≤ maxWord
    decide

end Frontier
