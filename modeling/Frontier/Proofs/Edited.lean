import Frontier.Proofs.Statement

/-!
# Scripts with a common beginning

An edit leaves the text before it as it was. The statements that end in that text are the same before and after the
edit, but for the last one: what follows its period may have changed, and the period ends it in one script and not in
the other.
-/

namespace Frontier.Statement
open Text

/-- Two texts have the same first `n` bytes. -/
def SameStart (n : Nat) (text text' : String) : Prop :=
  text.toByteArray.extract 0 n = text'.toByteArray.extract 0 n

/-- What begins a text, up to `n` bytes, begins the other text as well. -/
def Begins (n : Nat) (cs cs' : List Char) : Prop := ∀ taken, taken <+: cs → bytes taken ≤ n → taken <+: cs'

theorem SameStart.begins {n : Nat} {text text' : String} (same : SameStart n text text') :
    Begins n text.toList text'.toList := by
  rintro taken ⟨left, split⟩ short
  have encoded : text.toByteArray = taken.utf8Encode ++ left.utf8Encode := by
    rw [← String.ofList_toList (s := text), ← split, String.toByteArray_ofList, List.utf8Encode_append]
  have front : text.toByteArray.extract 0 (bytes taken) = taken.utf8Encode := by
    rw [encoded, ← size_utf8Encode, ByteArray.extract_append_eq_left rfl]
  have front' : text'.toByteArray.extract 0 (bytes taken) = taken.utf8Encode := by
    have cut := congrArg (·.extract 0 (bytes taken)) same
    simp only [ByteArray.extract_extract, Nat.zero_add, Nat.add_zero, Nat.min_eq_left short] at cut
    rw [← cut, front]
  apply List.isPrefix_of_utf8Encode_append_eq_utf8Encode
    (text'.toByteArray.extract (bytes taken) text'.toByteArray.size)
  rw [← front', ByteArray.extract_append_extract, Nat.zero_min, ByteArray.extract_zero_max_size,
    ← String.toByteArray_ofList, String.ofList_toList]

variable {n offset : Nat} {cs cs' left : List Char} {s : Statement}

theorem Begins.split (begins : Begins n cs cs') {taken : List Char} (split : cs = taken ++ left)
    (short : bytes taken ≤ n) : ∃ left', cs' = taken ++ left' ∧ Begins (n - bytes taken) left left' := by
  obtain ⟨left', rfl⟩ := begins taken ⟨left, split.symm⟩ short
  refine ⟨left', rfl, fun more first small => ?_⟩
  obtain ⟨rest, rfl⟩ := first
  have longer := begins (taken ++ more) ⟨rest, by rw [split, List.append_assoc]⟩ (by rw [bytes_append]; omega)
  exact (List.prefix_append_right_inj taken).mp longer

/-- The text of a statement begins that of another one. -/
def Begun (s s' : Statement) : Prop := ∃ extra ≠ [], s'.text.toList = s.text.toList ++ extra

theorem Begun.ne {s s' : Statement} (begun : s.Begun s') : s'.text ≠ s.text := by
  rintro same
  obtain ⟨extra, some, longer⟩ := begun
  rw [same] at longer
  exact some (by simpa using longer)

/-- A statement that ends in the common beginning is read in both texts, or its period ends it in one only. -/
theorem next?_begins (begins : Begins n cs cs') (read : next? offset none cs = some (s, left))
    (short : s.stop ≤ offset + n) : ∃ taken left', cs' = taken ++ left' ∧ s.stop = offset + bytes taken ∧
      Begins (offset + n - s.stop) left left' ∧ (next? offset none cs' = some (s, left') ∨
        (∀ s' more, next? offset none cs' = some (s', more) → s.stop < s'.stop ∧ s.Begun s') ∧ ¬ Closing left') := by
  obtain ⟨skipped, text, hg, hb, rfl⟩ := next?_eq read
  have whole := gap_append .code cs
  rw [hg] at whole
  have within : bytes (skipped ++ text) ≤ n := by
    have short : offset + bytes skipped + bytes text ≤ offset + n := short
    rw [bytes_append]
    omega
  obtain ⟨left', rfl, rest⟩ := begins.split (by rw [List.append_assoc]; exact whole.symm) within
  have last := body_getLast hb
  have gap' := gap_resume hg last left'
  obtain ⟨mark, stops, resumes⟩ := body_resume hb
  refine ⟨skipped ++ text, left', by rw [List.append_assoc], by rw [bytes_append, ← Nat.add_assoc], ?_, ?_⟩
  · show Begins (offset + n - (offset + bytes skipped + bytes text)) left left'
    rw [show offset + n - (offset + bytes skipped + bytes text) = n - bytes (skipped ++ text) by
      rw [bytes_append]; omega]
    exact rest
  · simp only [next?, List.append_assoc, gap', Option.or_none, resumes]
    by_cases stops' : ends mark left' = true
    · left
      simp [stops']
    · right
      refine ⟨?_, fun closing => stops' (closing mark)⟩
      simp only [stops', Bool.false_eq_true, ↓reduceIte, Option.map_map, Option.map_eq_some_iff, Function.comp_apply,
        Prod.mk.injEq, Prod.exists]
      rintro s' more ⟨extra, _, hb', rfl, rfl⟩
      have some := body_ne_nil hb'
      have := bytes_pos some
      constructor
      · show offset + bytes skipped + bytes text < offset + bytes skipped + bytes (text ++ extra)
        rw [bytes_append]
        omega
      · exact ⟨extra, some, by simp⟩

/-- Two scripts differ first at a statement: it ends in one of them where none ends in the other. -/
structure Parts (ss ss' : List Statement) (i : Nat) : Prop where
  same : ss'.take i = ss.take i
  later : ∀ s ∈ ss[i]?, ∀ s' ∈ ss'.drop i, s.stop < s'.stop
  longer : ∀ s ∈ ss[i]?, ∀ s' ∈ ss'[i]?, s.Begun s'

/-- What stands behind the last of the first statements of a text does not let a period end it in another text. -/
def Runs (offset : Nat) (ss : List Statement) (cs' : List Char) (i : Nat) : Prop :=
  ∃ taken left, cs' = taken ++ left ∧ (∀ s ∈ ss[i]?, s.stop = offset + bytes taken) ∧ ¬ Closing left

/-- Statements that end in the common beginning are the same in both texts, but for the last. -/
theorem allFrom_begins (begins : Begins n cs cs') {j : Nat} (bound : j ≤ (allFrom offset cs).length)
    (short : ∀ s ∈ (allFrom offset cs).take j, s.stop ≤ offset + n) :
    (allFrom offset cs').take j = (allFrom offset cs).take j ∨
      ∃ i, j = i + 1 ∧ Parts (allFrom offset cs) (allFrom offset cs') i ∧ Runs offset (allFrom offset cs) cs' i := by
  fun_induction allFrom offset cs generalizing n cs' j with
  | case1 offset cs none =>
    obtain rfl : j = 0 := by simpa using bound
    exact .inl rfl
  | case2 offset cs s left read ih =>
    cases j with
    | zero => exact .inl rfl
    | succ j =>
      rw [List.take_succ_cons] at short
      obtain ⟨first, others⟩ := List.forall_mem_cons.mp short
      obtain ⟨taken, left', rfl, stop, rest, same | ⟨later, goes⟩⟩ := next?_begins begins read first
      · rw [allFrom_cons same]
        have shift : s.stop + (offset + n - s.stop) = offset + n := by omega
        rcases ih rest (by simpa using bound) (by rwa [shift]) with
          equal | ⟨i, rfl, parts, more, beyond, rfl, ends, goes⟩
        · exact .inl (by rw [List.take_succ_cons, List.take_succ_cons, equal])
        · refine .inr ⟨i + 1, rfl, ⟨by simp [parts.same], by simpa using parts.later, by simpa using parts.longer⟩, ?_⟩
          refine ⟨taken ++ more, beyond, by rw [List.append_assoc], ?_, goes⟩
          intro t found
          rw [ends t (by simpa using found), stop, bytes_append]
          omega
      · right
        refine ⟨0, ?_, ?_, taken, left', rfl, by simpa using stop, goes⟩
        · -- A further statement would end in the common beginning, and so its text would let the period end this one.
          cases read' : next? s.stop none left with
          | none => simpa [allFrom_nil read'] using bound
          | some found =>
            obtain ⟨t, more⟩ := found
            cases j with
            | zero => rfl
            | succ j =>
              have within := others t (by simp [allFrom_cons read'])
              have stops := next?_closing read
              obtain ⟨front, rfl, size, period⟩ := next?_split read'
              obtain ⟨more', rfl, -⟩ := rest.split rfl (by omega)
              refine absurd (fun before => ?_) goes
              rw [← ends_common period before more more', stops before]
        · cases read' : next? offset none (taken ++ left') with
          | none => exact ⟨rfl, by simp [allFrom_nil read'], by simp [allFrom_nil read']⟩
          | some found =>
            obtain ⟨s', more⟩ := found
            obtain ⟨beyond, begun⟩ := later s' more read'
            rw [allFrom_cons read']
            refine ⟨rfl, ?_, by simpa using begun⟩
            intro _ first t mem
            obtain rfl : s = _ := by simpa using first
            rcases List.mem_cons.mp mem with rfl | mem
            · exact beyond
            · have := start_of_mem mem
              have := (allFrom_inOrder _ _).solid t mem
              omega

/-! ## Documents -/

theorem Parts.texts {ss ss' : List Statement} {i : Nat} (parts : Parts ss ss' i) (bound : i < ss.length) :
    (ss'.take (i + 1)).map (·.text) ≠ (ss.take (i + 1)).map (·.text) := by
  intro same
  have found := List.getElem?_eq_getElem bound
  have here := congrArg (·[i]?) same
  simp only [List.getElem?_map, List.getElem?_take_of_lt (Nat.lt_succ_self i), found, Option.map_some,
    Option.map_eq_some_iff] at here
  obtain ⟨s', found', text⟩ := here
  exact (parts.longer _ found s' found').ne text

theorem Parts.stops {ss ss' : List Statement} {i : Nat} (parts : Parts ss ss' i) (order : InOrder ss)
    (found : ss[i]? = some s) : ∀ s' ∈ ss', s'.stop ≠ s.stop := by
  obtain ⟨bound, rfl⟩ := List.getElem?_eq_some_iff.mp found
  intro s' mem
  rw [← List.take_append_drop i ss'] at mem
  rcases List.mem_append.mp mem with before | after
  · rw [parts.same] at before
    obtain ⟨k, lt, rfl⟩ := List.mem_take_iff_getElem.mp before
    have apart := List.pairwise_iff_getElem.mp order.apart k i (by omega) bound (by omega)
    have solid := order.solid _ (List.getElem_mem bound)
    omega
  · have := parts.later _ found s' after
    omega

/-- Statements of two documents that end in the common beginning have the same texts just if the last one ends in both
documents. -/
theorem same_texts_iff {script script' : String} (same : SameStart n script script') {j : Nat}
    (bound : j ≤ (all script).length) (short : ∀ s ∈ (all script).take j, s.stop ≤ n) :
    ((all script').take j).map (·.text) = ((all script).take j).map (·.text) ↔
      ∀ s ∈ ((all script).take j).getLast?, ∃ s' ∈ all script', s'.stop = s.stop := by
  have short : ∀ s ∈ (allFrom 0 script.toList).take j, s.stop ≤ 0 + n := by
    rw [Nat.zero_add]
    exact short
  rcases allFrom_begins same.begins bound short with equal | ⟨i, rfl, parts, -⟩
  · have equal : (all script').take j = (all script).take j := equal
    rw [← equal]
    refine ⟨fun _ s last => ⟨s, ?_, rfl⟩, fun _ => rfl⟩
    exact List.mem_of_mem_take (List.mem_of_getLast? last)
  · have bound : i < (all script).length := bound
    refine iff_of_false (parts.texts bound) fun ends => ?_
    have found := List.getElem?_eq_getElem bound
    have last : ((all script).take (i + 1)).getLast? = some (all script)[i] := by
      rw [List.take_add_one, found, Option.toList_some, List.getLast?_append]
      rfl
    obtain ⟨s', mem, stop⟩ := ends _ last
    exact parts.stops (all_inOrder script) found s' mem stop

end Frontier.Statement
