import Frontier.Statement
import Mathlib.Tactic.ByContra

/-!
# Statements read again

The text of a statement is whole: read by itself, or before anything that lets its period end it, it is one statement
again. A script that puts such texts on lines of their own has just these statements.
-/

namespace Frontier.Statement
open Text

/-- A text before which every period outside strings and comments ends a statement. -/
def Closing (left : List Char) : Prop := ∀ before, ends before left = true

theorem closing_nil : Closing [] := fun _ => rfl

theorem closing_newline (left : List Char) : Closing ('\n' :: left) := by
  intro before
  simp [ends, isAsciiBlank, show ('\n').isDigit = false by decide]

/-- What lets one period end a statement lets every period do so, and a digit lets none. -/
theorem ends_eq (before : Option Char) (left : List Char) : ends before left = ends none left := by
  cases left with
  | nil => rfl
  | cons c rest =>
    by_cases digit : c.isDigit = true
    · have plain : isAsciiBlank c = false ∧ (c == '(') = false := by
        constructor
        · by_contra blank
          simp only [isAsciiBlank, Bool.not_eq_false, Bool.or_eq_true, beq_iff_eq] at blank
          rcases blank with (((rfl | rfl) | rfl) | rfl) | rfl <;> simp at digit
        · by_contra opens
          obtain rfl : c = '(' := by simpa using opens
          simp at digit
      simp [ends, plain]
    · simp [ends, digit]

theorem closing_iff {left : List Char} : Closing left ↔ ends none left = true := by
  constructor
  · intro closing
    exact closing none
  · intro stops before
    rw [ends_eq, stops]

/-- A period ends a statement before nothing, a blank or a comment. -/
theorem closing_cases {left : List Char} : Closing left ↔
    left = [] ∨ (∃ c rest, left = c :: rest ∧ isAsciiBlank c = true) ∨ ∃ rest, left = '(' :: '*' :: rest := by
  rw [closing_iff]
  cases left with
  | nil => simp [ends]
  | cons c rest =>
    cases rest with
    | nil => simp [ends]
    | cons d rest => simp [ends, and_assoc]

theorem body_getLast {mode : Mode} {before : Option Char} {cs taken left : List Char}
    (h : body mode before cs = some (taken, left)) : taken.getLast? = some '.' := by
  fun_induction body mode before cs generalizing taken left <;>
    simp_all only [Option.map_eq_some_iff, Prod.exists, Prod.mk.injEq, Option.some.injEq, reduceCtorEq]
  all_goals first
    | (obtain ⟨rfl, rfl⟩ := h; simp_all)
    | (obtain ⟨t, l, hb, rfl, rfl⟩ := h; simp_all [List.getLast?_cons])

/-- Whether a period ends a statement does not depend on what comes after the next one. -/
theorem ends_common {taken : List Char} (last : taken.getLast? = some '.') (before : Option Char)
    (left left' : List Char) : ends before (taken ++ left) = ends before (taken ++ left') := by
  match taken with
  | [] => simp at last
  | [c] =>
    obtain rfl : c = '.' := by simpa using last
    simp [ends, isAsciiBlank, show ('.').isDigit = false by decide]
  | c :: d :: rest => simp [ends]

/-- What comes after a statement does not matter for the periods in it. -/
theorem ends_append {mode : Mode} {before before' : Option Char} {cs taken left : List Char} (left' : List Char)
    (h : body mode before cs = some (taken, left)) : ends before' (taken ++ left') = ends before' cs := by
  rw [← body_append h]
  exact ends_common (body_getLast h) before' left' left

theorem head_append {mode : Mode} {before : Option Char} {cs taken left : List Char} (left' : List Char)
    (h : body mode before cs = some (taken, left)) : (taken ++ left').head? = cs.head? := by
  have whole := body_append h
  have some := body_ne_nil h
  subst whole
  cases taken with
  | nil => exact absurd rfl some
  | cons c rest => rfl

/-- What follows the first character of a text stays the same when only the end of the text changes. -/
theorem not_followed {c x y : Char} {rest rest' : List Char} (same : rest'.head? = rest.head?)
    (other : ∀ more, c = x → rest = y :: more → False) : ∀ more, c = x → rest' = y :: more → False := by
  intro more first second
  rw [second] at same
  cases rest with
  | nil => simp at same
  | cons d rest =>
    obtain rfl : y = d := by simpa using same
    exact other rest first rfl

/-- Before another continuation a reader ends a statement where it did, if its period still ends it, or else goes on
from there. -/
def Resumes (read : List Char → Option (List Char × List Char)) (taken left : List Char) : Prop :=
  ∃ last, ends last left = true ∧ ∀ left', read (taken ++ left') =
    if ends last left' then some (taken, left')
    else (body .code (some '.') left').map fun (more, left) => (taken ++ more, left)

/-- A reader that takes some characters and leaves the rest to one that resumes. -/
theorem Resumes.after {read read' : List Char → Option (List Char × List Char)} {taken left : List Char}
    (resumes : Resumes read taken left) (front : List Char)
    (same : ∀ left', read' (front ++ (taken ++ left')) =
      (read (taken ++ left')).map fun (taken, left) => (front ++ taken, left)) : Resumes read' (front ++ taken) left := by
  obtain ⟨last, stops, resumes⟩ := resumes
  refine ⟨last, stops, fun left' => ?_⟩
  rw [List.append_assoc, same, resumes]
  split <;> simp [Function.comp_def]

theorem body_resume {mode : Mode} {before : Option Char} {cs taken left : List Char}
    (h : body mode before cs = some (taken, left)) : Resumes (body mode before) taken left := by
  fun_induction body mode before cs generalizing taken left with
  | case1 => simp at h
  | case3 before c rest other stops =>
    simp only [Option.some.injEq, Prod.mk.injEq] at h
    obtain ⟨rfl, rfl⟩ := h
    obtain ⟨rfl, stops⟩ : c = '.' ∧ ends before rest = true := by simpa using stops
    refine ⟨before, stops, fun left' => ?_⟩
    rw [List.singleton_append, body.eq_3 _ _ _ (fun _ first => by simp at first)]
    simp
  | case2 before rest ih =>
    simp only [Option.map_eq_some_iff, Prod.exists, Prod.mk.injEq] at h
    obtain ⟨t, l, hb, rfl, rfl⟩ := h
    exact (ih hb).after ['(', '*'] fun left' => body.eq_2 before (t ++ left')
  | case4 before c rest other goes ih =>
    simp only [Option.map_eq_some_iff, Prod.exists, Prod.mk.injEq] at h
    obtain ⟨t, l, hb, rfl, rfl⟩ := h
    refine (ih hb).after [c] fun left' => ?_
    rw [List.singleton_append, body.eq_3 _ _ _ (not_followed (head_append left' hb) other), ends_append left' hb,
      if_neg goes]
    rfl
  | case5 before c rest ih =>
    simp only [Option.map_eq_some_iff, Prod.exists, Prod.mk.injEq] at h
    obtain ⟨t, l, hb, rfl, rfl⟩ := h
    exact (ih hb).after ['\\', c] fun left' => body.eq_4 before c (t ++ left')
  | case6 before c rest other ih =>
    simp only [Option.map_eq_some_iff, Prod.exists, Prod.mk.injEq] at h
    obtain ⟨t, l, hb, rfl, rfl⟩ := h
    refine (ih hb).after [c] fun left' => ?_
    have head := head_append left' hb
    exact body.eq_5 _ _ _ fun d => not_followed head (other d)
  | case7 depth before rest ih =>
    simp only [Option.map_eq_some_iff, Prod.exists, Prod.mk.injEq] at h
    obtain ⟨t, l, hb, rfl, rfl⟩ := h
    exact (ih hb).after ['(', '*'] fun left' => body.eq_6 before depth (t ++ left')
  | case8 depth before rest ih =>
    simp only [Option.map_eq_some_iff, Prod.exists, Prod.mk.injEq] at h
    obtain ⟨t, l, hb, rfl, rfl⟩ := h
    exact (ih hb).after ['*', ')'] fun left' => body.eq_7 before depth (t ++ left')
  | case9 depth before c rest opens closes ih =>
    simp only [Option.map_eq_some_iff, Prod.exists, Prod.mk.injEq] at h
    obtain ⟨t, l, hb, rfl, rfl⟩ := h
    refine (ih hb).after [c] fun left' => ?_
    have head := head_append left' hb
    exact body.eq_8 _ _ _ _ (not_followed head opens) (not_followed head closes)

/-! ## Gaps -/

/-- A gap before a statement is the same whatever follows the statement. -/
theorem gap_resume {mode : Mode} {cs skipped taken left : List Char} (h : gap mode cs = (skipped, taken ++ left))
    (last : taken.getLast? = some '.') (left' : List Char) :
    gap mode (skipped ++ (taken ++ left')) = (skipped, taken ++ left') := by
  have some : taken ≠ [] := by rintro rfl; simp at last
  have head : ∀ sk rest, sk ++ (taken ++ left) = rest → (sk ++ (taken ++ left')).head? = rest.head? := by
    rintro sk rest rfl
    cases sk with
    | nil =>
      cases taken with
      | nil => exact absurd rfl some
      | cons c taken => rfl
    | cons c sk => rfl
  generalize whole : taken ++ left = code at h
  fun_induction gap mode cs generalizing skipped with
  | case1 => simp_all
  | case2 depth rest sk l hg ih | case3 depth rest sk l hg ih | case5 mode rest plain sk l hg ih =>
    obtain ⟨rfl, rfl⟩ : _ = skipped ∧ l = code := by simpa using h
    simp_all [gap]
  | case4 depth c rest opens closes sk l hg ih =>
    obtain ⟨rfl, rfl⟩ : _ = skipped ∧ l = code := by simpa using h
    have same := head sk rest (by rw [whole, ← gap_append (.comment depth) rest, hg])
    rw [List.cons_append, gap.eq_4 _ _ _ (not_followed same opens) (not_followed same closes), ih hg]
  | case6 mode c rest opens closes plain code' blank sk l hg ih =>
    obtain ⟨rfl, rfl⟩ : _ = skipped ∧ l = code := by simpa using h
    have same := head sk rest (by rw [whole, ← gap_append mode rest, hg])
    rw [List.cons_append, gap.eq_6 _ _ _ (not_followed same code') (fun depth _ m => absurd m (plain depth))
      (fun depth _ m => absurd m (plain depth)) plain, if_pos blank, ih hg]
  | case7 mode c rest opens closes plain code' solid =>
    obtain ⟨rfl, rfl⟩ : [] = skipped ∧ c :: rest = code := by simpa using h
    obtain ⟨taken', rfl⟩ : ∃ taken', taken = c :: taken' := by
      cases taken with
      | nil => exact absurd rfl some
      | cons d taken' => exact ⟨taken', by simp_all⟩
    have other : ∀ more, c = '(' → taken' ++ left' = '*' :: more → False := by
      rintro more rfl second
      cases taken' with
      | nil => simp at last
      | cons d taken' =>
        obtain rfl : d = '*' := by simpa using (List.cons.inj second).1
        exact code' (taken' ++ left) rfl (by simpa using whole.symm)
    rw [List.nil_append, List.cons_append, gap.eq_6 _ _ _ other (fun depth _ m => absurd m (plain depth))
      (fun depth _ m => absurd m (plain depth)) plain, if_neg solid]

/-- What a gap leaves has no gap in front. -/
theorem gap_gap {mode : Mode} {cs skipped left : List Char} (h : gap mode cs = (skipped, left)) :
    gap .code left = ([], left) := by
  fun_induction gap mode cs generalizing skipped left with
  | case1 =>
    obtain ⟨-, rfl⟩ : [] = skipped ∧ [] = left := by simpa using h
    rfl
  | case2 depth rest sk l hg ih | case3 depth rest sk l hg ih | case5 mode rest plain sk l hg ih =>
    obtain ⟨-, rfl⟩ : _ = skipped ∧ l = left := by simpa using h
    exact ih hg
  | case4 depth c rest opens closes sk l hg ih =>
    obtain ⟨-, rfl⟩ : _ = skipped ∧ l = left := by simpa using h
    exact ih hg
  | case6 mode c rest opens closes plain code blank sk l hg ih =>
    obtain ⟨-, rfl⟩ : _ = skipped ∧ l = left := by simpa using h
    exact ih hg
  | case7 mode c rest opens closes plain code solid =>
    obtain ⟨-, rfl⟩ : [] = skipped ∧ c :: rest = left := by simpa using h
    rw [gap.eq_6 _ _ _ code (fun _ _ m => by cases m) (fun _ _ m => by cases m) (fun _ m => by cases m),
      if_neg solid]

/-! ## Whole statements -/

/-- The character before a text does not matter to what is read of it. -/
theorem body_before (mode : Mode) (before : Option Char) (cs : List Char) : body mode before cs = body mode none cs := by
  have stops : ∀ rest, ends before rest = ends none rest := ends_eq before
  unfold body
  split <;> simp only [stops]

theorem next?_before (offset : Nat) (before : Option Char) (cs : List Char) :
    next? offset before cs = next? offset none cs := by
  unfold next?
  dsimp only
  rw [body_before .code ((gap .code cs).1.getLast?.or before), body_before .code ((gap .code cs).1.getLast?.or none)]

/-- A text that is one statement, whatever follows as long as that lets its period end it. -/
structure Whole (text : List Char) : Prop where
  gapless : ∀ left, gap .code (text ++ left) = ([], text ++ left)
  read : ∀ before left, before.any Char.isDigit = false → Closing left →
    body .code before (text ++ left) = some (text, left)

/-- What is read as the next statement. -/
theorem next?_eq {offset : Nat} {cs left : List Char} {s : Statement} (h : next? offset none cs = some (s, left)) :
    ∃ skipped taken, gap .code cs = (skipped, taken ++ left) ∧
      body .code skipped.getLast? (taken ++ left) = some (taken, left) ∧
      s = ⟨String.ofList taken, offset + bytes skipped, offset + bytes skipped + bytes taken⟩ := by
  simp only [next?, Option.map_eq_some_iff, Prod.exists, Prod.mk.injEq, Option.or_none] at h
  obtain ⟨taken, l, hb, rfl, rfl⟩ := h
  have rest := body_append hb
  exact ⟨(gap .code cs).1, taken, by rw [rest], by rw [rest]; exact hb, rfl⟩

theorem whole_of_next? {offset : Nat} {cs left : List Char} {s : Statement}
    (h : next? offset none cs = some (s, left)) : Whole s.text.toList := by
  obtain ⟨skipped, taken, hg, hb, rfl⟩ := next?_eq h
  have last := body_getLast hb
  rw [String.toList_ofList]
  constructor
  · intro left'
    exact gap_resume (gap_gap hg) last left'
  · intro before left' _ closing
    obtain ⟨c, -, resumes⟩ := body_resume hb
    rw [body_before .code before, ← body_before .code skipped.getLast?, resumes, if_pos (closing c)]

/-- A whole text on a line of its own is read as one statement. -/
theorem Whole.next? {text : List Char} (whole : Whole text) {left : List Char} (closing : Closing left)
    (offset : Nat) : Statement.next? offset none (text ++ left) =
      some (⟨String.ofList text, offset, offset + bytes text⟩, left) := by
  simp only [Statement.next?, whole.gapless, List.getLast?_nil, Option.or_none]
  rw [whole.read none left rfl closing]
  rfl

/-- A line end in front of a text changes nothing but the offsets. -/
theorem allFrom_newline (offset : Nat) (cs : List Char) : allFrom offset ('\n' :: cs) = allFrom (offset + 1) cs := by
  have skips : gap .code ('\n' :: cs) = ('\n' :: (gap .code cs).1, (gap .code cs).2) := by
    rw [gap.eq_6 _ _ _ (fun _ first => by simp at first) (fun _ _ m => by cases m) (fun _ _ m => by cases m)
      (fun _ m => by cases m), if_pos (by decide)]
  have same : next? offset none ('\n' :: cs) = next? (offset + 1) none cs := by
    simp only [next?, skips, Option.or_none, body_before .code ('\n' :: (gap .code cs).1).getLast?,
      body_before .code (gap .code cs).1.getLast?, bytes_cons, show ('\n').utf8Size = 1 by decide, Nat.add_assoc]
  rw [allFrom, allFrom, same]

theorem allFrom_cons {offset : Nat} {cs left : List Char} {s : Statement}
    (h : next? offset none cs = some (s, left)) : allFrom offset cs = s :: allFrom s.stop left := by
  rw [allFrom]
  split
  · next none => simp [none] at h
  · next s' left' some =>
    obtain ⟨rfl, rfl⟩ : s' = s ∧ left' = left := by simpa [some] using h
    rfl

theorem allFrom_nil {offset : Nat} {cs : List Char} (h : next? offset none cs = none) : allFrom offset cs = [] := by
  rw [allFrom]
  split
  · rfl
  · next s' left' some => simp [some] at h

/-- Whole texts on lines of their own are read one by one. -/
theorem allFrom_lines {texts : List (List Char)} (whole : ∀ text ∈ texts, Whole text) (offset : Nat) :
    (allFrom offset (['\n'].intercalate texts)).map (·.text) = texts.map String.ofList := by
  induction texts generalizing offset with
  | nil =>
    rw [allFrom_nil rfl]
    rfl
  | cons text rest ih =>
    obtain ⟨first, others⟩ := List.forall_mem_cons.mp whole
    cases rest with
    | nil =>
      have read := first.next? closing_nil offset
      rw [List.append_nil] at read
      rw [show ['\n'].intercalate [text] = text by simp [List.intercalate]]
      rw [allFrom_cons read, allFrom_nil rfl]
      rfl
    | cons text' rest =>
      have lines : ['\n'].intercalate (text :: text' :: rest) = text ++ '\n' :: ['\n'].intercalate (text' :: rest) := by
        simp [List.intercalate]
      rw [lines, allFrom_cons (first.next? (closing_newline _) offset), allFrom_newline, List.map_cons, ih others]
      rfl

/-- A script that puts whole texts on lines of their own has just these statements. -/
theorem all_lines {texts : List String} (whole : ∀ text ∈ texts, Whole text.toList) :
    (all ("\n".intercalate texts)).map (·.text) = texts := by
  have lines : ("\n".intercalate texts).toList = ['\n'].intercalate (texts.map String.toList) :=
    String.toList_intercalate
  have each : ∀ text ∈ texts.map String.toList, Whole text := by
    intro text mem
    obtain ⟨s, given, rfl⟩ := List.mem_map.mp mem
    exact whole s given
  rw [all, lines, allFrom_lines each, List.map_map]
  simp [Function.comp_def]

/-! ## Scripts -/

/-- Every statement of a text is whole. -/
theorem whole_of_mem {offset : Nat} {cs : List Char} {s : Statement} (h : s ∈ allFrom offset cs) :
    Whole s.text.toList := by
  fun_induction allFrom offset cs with
  | case1 => simp at h
  | case2 offset cs first left read ih =>
    rcases List.mem_cons.mp h with rfl | later
    · exact whole_of_next? read
    · exact ih later

/-- Statements that lie one after the other. -/
structure InOrder (ss : List Statement) : Prop where
  solid : ∀ s ∈ ss, s.start < s.stop
  apart : ss.Pairwise fun s t => s.stop ≤ t.start

theorem next?_start {offset : Nat} {cs left : List Char} {s : Statement}
    (h : next? offset none cs = some (s, left)) : offset ≤ s.start ∧ s.start < s.stop := by
  obtain ⟨skipped, taken, -, hb, rfl⟩ := next?_eq h
  have := bytes_pos (body_ne_nil hb)
  constructor
  · exact Nat.le_add_right _ _
  · show offset + bytes skipped < offset + bytes skipped + bytes taken
    omega

/-- The text of a statement with the gap before it. -/
theorem next?_split {offset : Nat} {cs left : List Char} {s : Statement}
    (h : next? offset none cs = some (s, left)) :
    ∃ taken, cs = taken ++ left ∧ s.stop = offset + bytes taken ∧ taken.getLast? = some '.' := by
  obtain ⟨skipped, text, hg, hb, rfl⟩ := next?_eq h
  have whole := gap_append .code cs
  rw [hg] at whole
  refine ⟨skipped ++ text, by rw [List.append_assoc, whole], by rw [bytes_append, ← Nat.add_assoc], ?_⟩
  rw [List.getLast?_append, body_getLast hb]
  rfl

/-- Behind a statement stands what lets its period end it. -/
theorem next?_closing {offset : Nat} {cs left : List Char} {s : Statement}
    (h : next? offset none cs = some (s, left)) : Closing left := by
  obtain ⟨skipped, text, -, hb, -⟩ := next?_eq h
  obtain ⟨last, stops, -⟩ := body_resume hb
  rw [closing_iff, ← ends_eq last, stops]

theorem closing_of_mem {offset : Nat} {cs : List Char} {s : Statement} (h : s ∈ allFrom offset cs) :
    ∃ taken left, cs = taken ++ left ∧ s.stop = offset + bytes taken ∧ Closing left := by
  fun_induction allFrom offset cs with
  | case1 => simp at h
  | case2 offset cs first left read ih =>
    obtain ⟨front, rfl, stop, -⟩ := next?_split read
    rcases List.mem_cons.mp h with rfl | later
    · exact ⟨front, left, rfl, stop, next?_closing read⟩
    · obtain ⟨taken, left', rfl, stop', closing⟩ := ih later
      exact ⟨front ++ taken, left', by rw [List.append_assoc], by rw [stop', stop, bytes_append]; omega, closing⟩

theorem start_of_mem {offset : Nat} {cs : List Char} {s : Statement} (h : s ∈ allFrom offset cs) :
    offset ≤ s.start := by
  fun_induction allFrom offset cs with
  | case1 => simp at h
  | case2 offset cs first left read ih =>
    have := next?_start read
    rcases List.mem_cons.mp h with rfl | later
    · exact this.1
    · have := ih later
      omega

theorem allFrom_inOrder (offset : Nat) (cs : List Char) : InOrder (allFrom offset cs) := by
  fun_induction allFrom offset cs with
  | case1 => exact ⟨by simp, .nil⟩
  | case2 offset cs first left read ih =>
    constructor
    · intro s mem
      rcases List.mem_cons.mp mem with rfl | later
      · exact (next?_start read).2
      · exact ih.solid s later
    · exact .cons (fun s later => start_of_mem later) ih.apart

theorem all_inOrder (script : String) : InOrder (all script) := allFrom_inOrder 0 script.toList

theorem size_utf8Encode (cs : List Char) : cs.utf8Encode.size = bytes cs := by
  induction cs with
  | nil => rfl
  | cons c cs ih =>
    rw [List.utf8Encode_cons, ByteArray.size_append, ih, List.utf8Encode_singleton, List.size_toByteArray,
      String.length_utf8EncodeChar, bytes_cons]

theorem length_allFrom_le (offset : Nat) (cs : List Char) : (allFrom offset cs).length ≤ bytes cs := by
  fun_induction allFrom offset cs with
  | case1 => exact Nat.zero_le _
  | case2 offset cs first left read ih =>
    obtain ⟨taken, rfl, -, last⟩ := next?_split read
    have := bytes_pos (show taken ≠ [] by rintro rfl; simp at last)
    rw [List.length_cons, bytes_append]
    omega

/-- A script has no more statements than bytes. -/
theorem length_all_le (script : String) : (all script).length ≤ script.utf8ByteSize := by
  have size : script.utf8ByteSize = bytes script.toList := by
    rw [← String.size_toByteArray, ← size_utf8Encode, ← String.toByteArray_ofList, String.ofList_toList]
  rw [size]
  exact length_allFrom_le 0 script.toList

end Frontier.Statement
