import Frontier.Json.Record
import Frontier.Proofs.JsonText
import Mathlib.Data.List.Perm.Basic

/-!
# Records read back

What is written for a value is read as that value: by itself, as an item of a list, and as a field of a record. A record's
fields are found by their keys, in whatever order they stand, and a field that was left out is read as one that has no
value.
-/

namespace Frontier.Json
open Form (encode decode?)
open Text (maxWord)

/-- A value that is read back from what is written for it, which is not what is written for a missing value. -/
structure Kept {α : Type} [Form α] (a : α) : Prop where
  exact : Exact (encode a)
  present : encode a ≠ .null
  read : decode? (encode a) = some a

variable {α : Type} [Form α]

/-- Such a value is read back from its text. -/
theorem Kept.scan?_print {a : α} (kept : Kept a) : scan? (print a) = some a := by
  rw [scan?, print, String.toList_ofList, parse?_write kept.exact, Option.bind_some, kept.read]

/-! ## Scalars, lists and missing values -/

theorem kept_bool (b : Bool) : Kept b := ⟨.bool b, nofun, rfl⟩

theorem kept_string (s : String) : Kept s := ⟨.text _, nofun, congrArg some (String.ofList_toList (s := s))⟩

theorem kept_nat {n : Nat} (small : n ≤ maxWord) : Kept n := ⟨.int small, nofun, if_pos small⟩

theorem kept_int {n : Int} (low : -2147483648 ≤ n) (high : n ≤ 2147483647) : Kept n where
  exact := .int (by unfold maxWord; omega)
  present := nofun
  read := if_pos ⟨low, high⟩

theorem kept_list {xs : List α} (items : ∀ x ∈ xs, Kept x) : Kept xs where
  exact := .array (List.forall_mem_map.mpr fun x mem => (items x mem).exact)
  present := nofun
  read := by
    have all := mapM_map_some (h := id) fun x mem => (items x mem).read
    rwa [List.map_id] at all

theorem decode?_present {j : Json} (present : j ≠ .null) : decode? j = (decode? j).map (some : α → Option α) := by
  cases j with
  | null => exact absurd rfl present
  | _ => rfl

theorem decode?_option {o : Option α} (kept : ∀ a ∈ o, Kept a) : decode? (encode o) = some o := by
  cases o with
  | none => rfl
  | some a =>
    obtain ⟨-, present, read⟩ := kept a rfl
    show decode? (encode a) = _
    rw [decode?_present present, read, Option.map_some]

theorem exact_option {o : Option α} (kept : ∀ a ∈ o, Kept a) : Exact (encode o) := by
  cases o with
  | none => exact .null
  | some a => exact (kept a rfl).exact

/-- A name is read as the value that has it, if no two values have the same name. -/
theorem named?_name {β : Type} {name : β → String} {all : List β} (distinct : (all.map name).Nodup) {b : β}
    (mem : b ∈ all) : named? name all (.text (name b).toList) = some b := by
  show (all.find? fun a => (name a).toList == (name b).toList) = some b
  induction all with
  | nil => cases mem
  | cons a more ih =>
    obtain ⟨fresh, others⟩ := List.nodup_cons.mp distinct
    rcases List.mem_cons.mp mem with rfl | later
    · exact List.find?_cons_of_pos (beq_self_eq_true _)
    · have apart : name a ≠ name b := fun same => fresh (same ▸ List.mem_map_of_mem later)
      rw [List.find?_cons_of_neg (by simpa [String.toList_inj] using apart), ih others later]

/-! ## Fields -/

theorem need_kept {a : α} (kept : Kept a) : need (some (encode a)) = some a := kept.read

theorem may_kept {o : Option α} (kept : ∀ a ∈ o, Kept a) : may (some (encode o)) = some o := decode?_option kept

theorem may_left_out {o : Option α} (kept : ∀ a ∈ o, Kept a) : may (o.map encode) = some o := by
  cases o with
  | none => rfl
  | some a => exact decode?_option kept

/-- The members that are written. -/
def present (ms : List (String × Option Json)) : List (List Char × Json) :=
  ms.filterMap fun (k, j) => j.map fun j => (k.toList, j)

theorem forall_present {P : Json → Prop} {ms : List (String × Option Json)} (each : ∀ f ∈ ms, ∀ j ∈ f.2, P j) :
    ∀ m ∈ present ms, P m.2 := by
  intro m mem
  obtain ⟨field, known, same⟩ := List.mem_filterMap.mp mem
  obtain ⟨j, value, rfl⟩ := Option.map_eq_some_iff.mp same
  exact each field known j value

theorem exact_member {key : String} {a : α} (exact : Exact (encode a)) : ∀ j ∈ (member key a).2, Exact j := by
  rintro j ⟨⟩
  exact exact

theorem exact_member? {key : String} {o : Option α} (kept : ∀ a ∈ o, Kept a) :
    ∀ j ∈ (member? key o).2, Exact j := by
  intro j mem
  obtain ⟨a, some, rfl⟩ := Option.map_eq_some_iff.mp mem
  exact (kept a some).exact

theorem exact_members {ms : List (String × Option Json)} (exact : ∀ f ∈ ms, ∀ j ∈ f.2, Exact j) : Exact (members ms) :=
  .object (forall_present exact)

/-- The order of an object's members does not matter. -/
theorem pick?_perm (keys : List String) {ms ms' : List (List Char × Json)} (perm : ms.Perm ms') :
    pick? keys ms = pick? keys ms' := by
  refine congrArg keys.mapM (funext fun key => ?_)
  have same := perm.filter fun m => m.1 == key.toList
  generalize ms.filter (fun m => m.1 == key.toList) = found at same
  generalize ms'.filter (fun m => m.1 == key.toList) = found' at same
  cases found with
  | nil => rw [same.nil_eq]
  | cons m others =>
    cases others with
    | nil => rw [same.singleton_eq]
    | cons n more =>
      have two := same.length_eq
      match found' with
      | [] => simp at two
      | [m'] => simp at two
      | m' :: n' :: more' => rfl

theorem present_cons (m : String × Option Json) (ms : List (String × Option Json)) :
    present (m :: ms) = (m.2.map fun j => (m.1.toList, j)).toList ++ present ms := by
  obtain ⟨key, _ | j⟩ := m <;> rfl

theorem present_other {ms : List (String × Option Json)} {key : String} (other : key ∉ ms.map (·.1)) :
    (present ms).filter (fun m => m.1 == key.toList) = [] := by
  rw [List.filter_eq_nil_iff]
  intro m mem
  obtain ⟨field, known, same⟩ := List.mem_filterMap.mp mem
  obtain ⟨j, -, rfl⟩ := Option.map_eq_some_iff.mp same
  rw [beq_iff_eq, String.toList_inj]
  rintro rfl
  exact other (List.mem_map_of_mem known)

/-- Every field of a record is found by its key. -/
theorem present_field {ms : List (String × Option Json)} (distinct : (ms.map (·.1)).Nodup) {m : String × Option Json}
    (mem : m ∈ ms) :
    (present ms).filter (fun n => n.1 == m.1.toList) = (m.2.map fun j => (m.1.toList, j)).toList := by
  induction ms with
  | nil => cases mem
  | cons first more ih =>
    obtain ⟨fresh, others⟩ := List.nodup_cons.mp distinct
    rw [present_cons, List.filter_append]
    rcases List.mem_cons.mp mem with rfl | later
    · rw [present_other fresh, List.append_nil]
      obtain ⟨key, _ | j⟩ := m <;> simp
    · have apart : first.1 ≠ m.1 := by
        intro same
        exact fresh (List.mem_map.mpr ⟨m, later, same.symm⟩)
      rw [ih others later]
      obtain ⟨key, _ | j⟩ := first
      · rfl
      · simp [String.toList_inj, apart]

theorem pick?_present (ms : List (String × Option Json)) (distinct : (ms.map (·.1)).Nodup) :
    pick? (ms.map (·.1)) (present ms) = some (ms.map (·.2)) := by
  refine mapM_map_some fun m mem => ?_
  rw [present_field distinct mem]
  obtain ⟨key, _ | j⟩ := m <;> rfl

/-- A record is read back if it can be read from its fields. -/
theorem kept_record {a : α} (ms : List (String × Option Json)) (written : encode a = members ms)
    (exact : ∀ f ∈ ms, ∀ j ∈ f.2, Exact j) (distinct : (ms.map (·.1)).Nodup)
    (read : ∀ j, fields? (ms.map (·.1)) j = some (ms.map (·.2)) → decode? j = some a) : Kept a where
  exact := written ▸ exact_members exact
  present := written ▸ nofun
  read := read _ (written ▸ pick?_present ms distinct)

end Frontier.Json
