import Frontier.Proofs.Encoding
import Frontier.Proofs.Statement

/-!
# The grammar of statements

One reader that goes through the bytes of a script from left to right tells code from strings and comments. A period in
code is a full stop if the text ends behind it, or a blank or a comment follows. The statements of a script end at its
full stops; each begins with the first byte of code that is neither blank nor part of a comment.
-/

namespace Frontier
open Text

namespace Statement

/-! ## Bytes -/

theorem not_pair {α : Type} [BEq α] [LawfulBEq α] {c x y : α} {rest : List α}
    (other : ∀ more, c = x → rest = y :: more → False) : (c == x && rest.head? == some y) = false := by
  by_contra both
  simp only [Bool.not_eq_false, Bool.and_eq_true, beq_iff_eq] at both
  obtain ⟨first, second⟩ := both
  obtain ⟨more, rfl⟩ := List.head?_eq_some_iff.mp second
  exact other more first rfl

/-- The part that a byte plays in a script. -/
inductive Role where
  | code
  /-- In a string, behind its first quote. -/
  | string
  /-- In a comment, its marks included. -/
  | comment
  deriving DecidableEq, Repr

/-- The parts that bytes play, read from left to right. -/
def roles : Mode → List UInt8 → List Role
  | _, [] => []
  | .code, 0x28 :: 0x2A :: rest => .comment :: .comment :: roles (.comment 0) rest
  | .code, b :: rest => .code :: roles (if b = 0x22 then .string else .code) rest
  | .string, 0x5C :: _ :: rest => .string :: .string :: roles .string rest
  | .string, b :: rest => .string :: roles (if b = 0x22 then .code else .string) rest
  | .comment depth, 0x28 :: 0x2A :: rest => .comment :: .comment :: roles (.comment (depth + 1)) rest
  | .comment depth, 0x2A :: 0x29 :: rest => .comment :: .comment :: roles (.afterComment depth) rest
  | .comment depth, _ :: rest => .comment :: roles (.comment depth) rest

/-- A space, tab, line feed, form feed or carriage return. -/
def blankByte (b : UInt8) : Bool := b == 0x20 || b == 0x09 || b == 0x0A || b == 0x0C || b == 0x0D

/-- Whether a text is at its end, or goes on with a blank or a comment. -/
def closes : List UInt8 → Bool
  | [] => true
  | 0x28 :: 0x2A :: _ => true
  | b :: _ => blankByte b

/-- Whether a byte is a full stop. -/
def fullStopAt (mode : Mode) (bs : List UInt8) (i : Nat) : Bool :=
  (roles mode bs)[i]? == some .code && bs[i]? == some 0x2E && closes (bs.drop (i + 1))

/-- The offsets just past the full stops. -/
def fullStops (mode : Mode) (bs : List UInt8) : List Nat :=
  ((List.range bs.length).filter (fullStopAt mode bs)).map (· + 1)

/-- What a reader takes the next byte for. -/
def Mode.role : Mode → Role
  | .code => .code
  | .string => .string
  | .comment _ => .comment

/-- The mode behind a byte that begins no mark of two bytes. -/
def Mode.next (b : UInt8) : Mode → Mode
  | .code => if b = 0x22 then .string else .code
  | .string => if b = 0x22 then .code else .string
  | .comment depth => .comment depth

/-- A byte that begins no mark of two bytes. -/
def Mode.Alone (b : UInt8) (rest : List UInt8) : Mode → Prop
  | .code => ∀ more, b = 0x28 → rest = 0x2A :: more → False
  | .string => ∀ d more, b = 0x5C → rest = d :: more → False
  | .comment _ => (∀ more, b = 0x28 → rest = 0x2A :: more → False) ∧ ∀ more, b = 0x2A → rest = 0x29 :: more → False

theorem roles_alone {mode : Mode} {b : UInt8} {rest : List UInt8} (alone : mode.Alone b rest) :
    roles mode (b :: rest) = mode.role :: roles (mode.next b) rest := by
  cases mode with
  | code => exact roles.eq_3 _ _ alone
  | string => exact roles.eq_5 _ _ alone
  | comment depth => exact roles.eq_8 _ _ _ alone.1 alone.2

/-- The bytes in front play these parts, and those behind are read in another mode. -/
structure Splits (mode : Mode) (front : List UInt8) (rs : List Role) (mode' : Mode) (back : List UInt8) : Prop where
  length : rs.length = front.length
  roles : roles mode (front ++ back) = rs ++ roles mode' back

namespace Splits
variable {mode mode' mode'' : Mode} {front front' back : List UInt8} {rs rs' : List Role}

theorem nil (mode : Mode) (back : List UInt8) : Splits mode [] [] mode back := ⟨rfl, rfl⟩

theorem trans (first : Splits mode front rs mode' (front' ++ back)) (second : Splits mode' front' rs' mode'' back) :
    Splits mode (front ++ front') (rs ++ rs') mode'' back where
  length := by rw [List.length_append, List.length_append, first.length, second.length]
  roles := by rw [List.append_assoc, first.roles, second.roles, List.append_assoc]

theorem role (splits : Splits mode front rs mode' back) (i : Nat) :
    (Statement.roles mode (front ++ back))[front.length + i]? = (Statement.roles mode' back)[i]? := by
  rw [splits.roles, List.getElem?_append_right (by rw [splits.length]; omega), splits.length, Nat.add_sub_cancel_left]

theorem fullStopAt (splits : Splits mode front rs mode' back) (i : Nat) :
    fullStopAt mode (front ++ back) (front.length + i) = Statement.fullStopAt mode' back i := by
  have byte : (front ++ back)[front.length + i]? = back[i]? := by
    rw [List.getElem?_append_right (Nat.le_add_right _ _), Nat.add_sub_cancel_left]
  have rest : (front ++ back).drop (front.length + i + 1) = back.drop (i + 1) := by
    rw [Nat.add_assoc, List.drop_append, List.drop_eq_nil_of_le (by omega), List.nil_append, Nat.add_sub_cancel_left]
  rw [Statement.fullStopAt, Statement.fullStopAt, splits.role, byte, rest]

/-- The full stops of the whole are those in front, and those behind. -/
theorem fullStops (splits : Splits mode front rs mode' back) : fullStops mode (front ++ back) =
    ((List.range front.length).filter (Statement.fullStopAt mode (front ++ back))).map (· + 1) ++
      (Statement.fullStops mode' back).map (front.length + ·) := by
  have later : ∀ i, (Statement.fullStopAt mode (front ++ back) ∘ (front.length + ·)) i =
      Statement.fullStopAt mode' back i := splits.fullStopAt
  simp only [Statement.fullStops, List.length_append, List.range_add, List.filter_append, List.map_append,
    List.filter_map, List.map_map]
  congr 1
  rw [funext later]
  apply List.map_congr_left
  intro i _
  exact Nat.add_assoc _ _ _

theorem fullStops_behind (splits : Splits mode front rs mode' back)
    (none : ∀ i < front.length, Statement.fullStopAt mode (front ++ back) i = false) :
    Statement.fullStops mode (front ++ back) = (Statement.fullStops mode' back).map (front.length + ·) := by
  have empty : (List.range front.length).filter (Statement.fullStopAt mode (front ++ back)) = [] := by
    rw [List.filter_eq_nil_iff]
    intro i mem
    simp [none i (List.mem_range.mp mem)]
  rw [splits.fullStops, empty, List.map_nil, List.nil_append]

theorem fullStops_quiet (splits : Splits mode front rs mode' back)
    (quiet : ∀ i : Nat, rs[i]? = some Role.code → front[i]? ≠ some 0x2E) :
    Statement.fullStops mode (front ++ back) = (Statement.fullStops mode' back).map (front.length + ·) := by
  apply splits.fullStops_behind
  intro i lt
  rw [Statement.fullStopAt, splits.roles, List.getElem?_append_left (by rw [splits.length]; exact lt),
    List.getElem?_append_left lt]
  by_cases code : rs[i]? = some Role.code
  · simp [quiet i code]
  · simp [code]

end Splits

theorem splits_high (mode : Mode) (front back : List UInt8) (high : ∀ b ∈ front, 0x80 ≤ b) :
    Splits mode front (List.replicate front.length mode.role) mode back := by
  induction front with
  | nil => exact .nil mode back
  | cons b front ih =>
    obtain ⟨above, others⟩ := List.forall_mem_cons.mp high
    have other : ∀ a : UInt8, a < 0x80 → b ≠ a := by
      rintro a small rfl
      exact absurd above (UInt8.not_le.mpr small)
    have alone : mode.Alone b (front ++ back) := by
      cases mode with
      | code => exact fun _ same _ => other 40 (by decide) same
      | string => exact fun _ _ same _ => other 92 (by decide) same
      | comment depth => exact ⟨fun _ same _ => other 40 (by decide) same, fun _ same _ => other 42 (by decide) same⟩
    have stays : mode.next b = mode := by
      cases mode with
      | code => exact if_neg (other 34 (by decide))
      | string => exact if_neg (other 34 (by decide))
      | comment depth => rfl
    exact ⟨by simp, by rw [List.cons_append, roles_alone alone, stays, (ih others).roles]; rfl⟩

/-! ## Characters -/

variable {mode mode' : Mode} {rs : List Role} {c : Char} {cs front rest taken left : List Char}

theorem splits_single (mode : Mode) (ascii : c.val ≤ 127 →
      roles mode (c.toUInt8 :: encode rest) = mode.role :: roles mode' (encode rest))
    (large : ¬ c.val ≤ 127 → mode' = mode) :
    Splits mode (encode [c]) (List.replicate c.utf8Size mode.role) mode' (encode rest) := by
  rcases encode_cases c with ⟨small, alone⟩ | ⟨other, high⟩
  · rw [Char.utf8Size_eq_one_iff.mpr small, alone]
    exact ⟨rfl, ascii small⟩
  · have size : c.utf8Size = (encode [c]).length := by rw [length_encode]; rfl
    rw [large other, size]
    exact splits_high mode _ _ high

theorem quote_iff (small : c.val ≤ 127) : c.toUInt8 = 0x22 ↔ (c == '"') = true := by
  rw [beq_iff_eq]
  exact byte_inj (d := '"') small (by decide)

theorem not_quote (large : ¬ c.val ≤ 127) : ¬ (c == '"') = true := by
  rw [beq_iff_eq]
  rintro rfl
  exact large (by decide)

theorem splits_code (other : ∀ more, c = '(' → rest = '*' :: more → False) :
    Splits .code (encode [c]) (List.replicate c.utf8Size .code) (if c == '"' then .string else .code)
      (encode rest) := by
  apply splits_single .code
  · intro small
    have alone : Mode.code.Alone c.toUInt8 (encode rest) := unpaired small (by decide) (by decide) other
    simp only [roles_alone alone, Mode.next, quote_iff small]
  · exact fun large => if_neg (not_quote large)

theorem splits_string (other : ∀ d more, c = '\\' → rest = d :: more → False) :
    Splits .string (encode [c]) (List.replicate c.utf8Size .string) (if c == '"' then .code else .string)
      (encode rest) := by
  apply splits_single .string
  · intro small
    have alone : Mode.string.Alone c.toUInt8 (encode rest) := by
      intro b more same next
      cases rest with
      | nil => cases next
      | cons d rest => exact other d rest ((byte_inj (d := '\\') small (by decide)).mp same) rfl
    simp only [roles_alone alone, Mode.next, quote_iff small]
  · exact fun large => if_neg (not_quote large)

theorem splits_comment {depth : Nat} (opens : ∀ more, c = '(' → rest = '*' :: more → False)
    (closes : ∀ more, c = '*' → rest = ')' :: more → False) :
    Splits (.comment depth) (encode [c]) (List.replicate c.utf8Size .comment) (.comment depth) (encode rest) := by
  apply splits_single (.comment depth)
  · intro small
    have alone : (Mode.comment depth).Alone c.toUInt8 (encode rest) :=
      ⟨unpaired small (by decide) (by decide) opens, unpaired small (by decide) (by decide) closes⟩
    rw [roles_alone alone, Mode.next]
  · exact fun _ => rfl

/-- A character behind a backslash stays in the string, whatever it is. -/
theorem splits_escape (c : Char) (rest : List Char) :
    Splits .string (encode ['\\', c]) (List.replicate (1 + c.utf8Size) .string) .string (encode rest) := by
  obtain ⟨b, bs, own, size⟩ := encode_head c
  have high : ∀ a ∈ bs, 0x80 ≤ a := by
    rcases encode_cases c with ⟨-, alone⟩ | ⟨-, high⟩
    · rw [alone] at own
      rw [← (List.cons.inj own).2]
      simp
    · rw [own] at high
      exact (List.forall_mem_cons.mp high).2
  have chars : encode ['\\', c] = 0x5C :: b :: bs := by
    rw [encode_cons, own]
    rfl
  rw [chars, size, Nat.add_comm 1]
  refine ⟨by simp, ?_⟩
  exact congrArg (fun rs => Role.string :: Role.string :: rs) (splits_high .string bs _ high).roles

theorem splits_opening (rest : List Char) :
    Splits .code (encode ['(', '*']) (List.replicate 2 .comment) (.comment 0) (encode rest) := ⟨rfl, rfl⟩

theorem splits_deeper (depth : Nat) (rest : List Char) :
    Splits (.comment depth) (encode ['(', '*']) (List.replicate 2 .comment) (.comment (depth + 1)) (encode rest) :=
  ⟨rfl, rfl⟩

theorem splits_closing (depth : Nat) (rest : List Char) :
    Splits (.comment depth) (encode ['*', ')']) (List.replicate 2 .comment) (.afterComment depth) (encode rest) :=
  ⟨rfl, rfl⟩

/-! ## Statements and gaps -/

theorem quiet_replicate {role : Role} (other : role ≠ .code) (n : Nat) (front : List UInt8) :
    ∀ i : Nat, (List.replicate n role)[i]? = some Role.code → front[i]? ≠ some 0x2E := by
  intro i code
  rw [List.getElem?_replicate] at code
  split at code
  · exact absurd (Option.some.inj code) other
  · cases code

theorem quiet_char (other : c ≠ '.') (rs : List Role) :
    ∀ i : Nat, rs[i]? = some Role.code → (encode [c])[i]? ≠ some 0x2E := by
  intro i _ period
  have mem := List.mem_of_getElem? period
  rcases encode_cases c with ⟨small, alone⟩ | ⟨-, high⟩
  · rw [alone, List.mem_singleton] at mem
    exact other ((byte_inj (d := '.') small (by decide)).mp mem.symm)
  · exact absurd (high _ mem) (by decide)

theorem blankByte_ascii (small : c.val ≤ 127) : blankByte c.toUInt8 = isAsciiBlank c := by
  have byte : ∀ d : Char, d.val ≤ 127 → (c.toUInt8 == d.toUInt8) = (c == d) := by
    intro d ascii
    rw [Bool.eq_iff_iff, beq_iff_eq, beq_iff_eq]
    exact byte_inj small ascii
  have space := byte ' ' (by decide)
  have tab := byte '\t' (by decide)
  have feed := byte '\n' (by decide)
  have page := byte '\x0c' (by decide)
  have turn := byte '\r' (by decide)
  rw [isAsciiBlank, ← space, ← tab, ← feed, ← page, ← turn]
  rfl

theorem blankByte_high {b : UInt8} (high : 0x80 ≤ b) : blankByte b = false := by
  by_contra blank
  simp only [blankByte, Bool.not_eq_false, Bool.or_eq_true, beq_iff_eq] at blank
  rcases blank with (((rfl | rfl) | rfl) | rfl) | rfl <;> exact absurd high (by decide)

theorem isAsciiBlank_large (large : ¬ c.val ≤ 127) : isAsciiBlank c = false := by
  by_contra blank
  simp only [isAsciiBlank, Bool.not_eq_false, Bool.or_eq_true, beq_iff_eq] at blank
  rcases blank with (((rfl | rfl) | rfl) | rfl) | rfl <;> exact absurd large (by decide)

/-- A period in code is a full stop where the reader of statements lets it end one. -/
theorem closes_encode (before : Option Char) (rest : List Char) : closes (encode rest) = ends before rest := by
  rw [ends_eq]
  cases rest with
  | nil => rfl
  | cons c rest =>
    by_cases opens : ∃ more, c = '(' ∧ rest = '*' :: more
    · obtain ⟨more, rfl, rfl⟩ := opens
      rfl
    have plain : ends none (c :: rest) = isAsciiBlank c := by
      have apart := not_pair fun more first second => opens ⟨more, first, second⟩
      simp [ends, apart]
    have other : ∀ more, c = '(' → rest = '*' :: more → False := fun more first second => opens ⟨more, first, second⟩
    rw [plain, encode_cons]
    rcases encode_cases c with ⟨small, alone⟩ | ⟨large, high⟩
    · rw [alone, List.singleton_append, closes.eq_3 _ _ (unpaired small (by decide) (by decide) other),
        blankByte_ascii small]
    · obtain ⟨b, bs, own, -⟩ := encode_head c
      have above := high b (by rw [own]; exact List.mem_cons_self)
      rw [isAsciiBlank_large large, own, List.cons_append, closes.eq_3, blankByte_high above]
      rintro _ rfl
      exact absurd above (by decide)

theorem fullStops_stop (back : List UInt8) : fullStops .code (0x2E :: back) =
    (if closes back then [1] else []) ++ (fullStops .code back).map (1 + ·) := by
  have splits : Splits .code [0x2E] [.code] .code back := ⟨rfl, rfl⟩
  have stop : fullStopAt .code ([0x2E] ++ back) 0 = closes back := by
    have role : (roles .code ([0x2E] ++ back))[0]? = some .code := by
      rw [splits.roles]
      rfl
    rw [fullStopAt, role]
    simp
  rw [← List.singleton_append, splits.fullStops, List.length_singleton, List.range_one, List.filter_cons, stop]
  split <;> rfl

theorem fullStops_period (before : Option Char) (rest : List Char) :
    fullStops .code (encode ('.' :: rest)) =
      (if ends before rest then [1] else []) ++ (fullStops .code (encode rest)).map (1 + ·) := by
  rw [← closes_encode before, encode_cons]
  exact fullStops_stop (encode rest)

/-- What is taken of a text reaches up to its first full stop. -/
structure Found (mode : Mode) (cs taken left : List Char) : Prop where
  whole : taken ++ left = cs
  splits : ∃ rs, Splits mode (encode taken) rs .code (encode left)
  stops : fullStops mode (encode cs) = bytes taken :: (fullStops .code (encode left)).map (bytes taken + ·)

/-- A text has no full stop if no statement is found in it, and else reaches up to its first one. -/
def Agrees (mode : Mode) (cs : List Char) : Option (List Char × List Char) → Prop
  | none => fullStops mode (encode cs) = []
  | some (taken, left) => Found mode cs taken left

theorem Agrees.after {found : Option (List Char × List Char)} (agrees : Agrees mode' rest found)
    (splits : Splits mode (encode front) rs mode' (encode rest))
    (stops : fullStops mode (encode front ++ encode rest) =
      (fullStops mode' (encode rest)).map ((encode front).length + ·)) :
    Agrees mode (front ++ rest) (found.map fun (taken, left) => (front ++ taken, left)) := by
  rw [← encode_append, length_encode] at stops
  cases found with
  | none =>
    rw [Agrees] at agrees
    rw [agrees, List.map_nil] at stops
    exact stops
  | some pair =>
    obtain ⟨taken, left⟩ := pair
    obtain ⟨rfl, ⟨rs', splits'⟩, stops'⟩ := agrees
    rw [encode_append] at splits
    refine ⟨List.append_assoc _ _ _, ⟨rs ++ rs', ?_⟩, ?_⟩
    · rw [encode_append]
      exact splits.trans splits'
    · simp only [stops, stops', bytes_append, List.map_cons, List.map_map]
      congr 2
      funext n
      exact (Nat.add_assoc _ _ _).symm

theorem body_agrees (mode : Mode) (before : Option Char) (cs : List Char) : Agrees mode cs (body mode before cs) := by
  -- Strings and comments hold no full stop, whatever is written in them.
  have marks : ∀ {mode mode' : Mode} {front rest : List Char} {found : Option (List Char × List Char)} {role : Role}
      {n : Nat}, role ≠ .code → Agrees mode' rest found →
      Splits mode (encode front) (List.replicate n role) mode' (encode rest) →
      Agrees mode (front ++ rest) (found.map fun (taken, left) => (front ++ taken, left)) := by
    intro mode mode' front rest found role n other agrees splits
    exact agrees.after splits (splits.fullStops_quiet (quiet_replicate other _ _))
  fun_induction body mode before cs with
  | case1 mode before => simp [Agrees, fullStops, encode]
  | case2 before rest ih => exact marks (by decide) ih (splits_opening rest)
  | case3 before c rest other stops =>
    obtain ⟨rfl, closing⟩ : c = '.' ∧ ends before rest = true := by simpa using stops
    refine ⟨rfl, ⟨_, splits_code other⟩, ?_⟩
    rw [fullStops_period before, if_pos closing]
    rfl
  | case4 before c rest other goes ih =>
    have splits := splits_code other
    apply ih.after splits
    by_cases period : c = '.'
    · subst period
      have stops := fullStops_period before rest
      rwa [if_neg (by simpa using goes), encode_cons] at stops
    · exact splits.fullStops_quiet (quiet_char period _)
  | case5 before c rest ih => exact marks (by decide) ih (splits_escape c rest)
  | case6 before c rest other ih => exact marks (by decide) ih (splits_string other)
  | case7 depth before rest ih => exact marks (by decide) ih (splits_deeper depth rest)
  | case8 depth before rest ih => exact marks (by decide) ih (splits_closing depth rest)
  | case9 depth before c rest opens closes ih => exact marks (by decide) ih (splits_comment opens closes)

/-- The byte is blank, or part of a comment. -/
def Idle (rs : List Role) (bs : List UInt8) (i : Nat) : Prop :=
  rs[i]? = some .comment ∨ rs[i]? = some .code ∧ bs[i]?.any blankByte

section Idle
variable {rs rs' : List Role} {front back : List UInt8} {i : Nat}

theorem idle_front (same : rs.length = front.length) (lt : i < front.length) :
    Idle (rs ++ rs') (front ++ back) i ↔ Idle rs front i := by
  rw [Idle, Idle, List.getElem?_append_left (by rw [same]; exact lt), List.getElem?_append_left lt]

theorem idle_back (same : rs.length = front.length) (i : Nat) :
    Idle (rs ++ rs') (front ++ back) (front.length + i) ↔ Idle rs' back i := by
  rw [Idle, Idle, List.getElem?_append_right (by omega), List.getElem?_append_right (by omega), same,
    Nat.add_sub_cancel_left]

theorem idle_replicate (n : Nat) (lt : i < n) : Idle (List.replicate n .comment) front i :=
  .inl (by rw [List.getElem?_replicate, if_pos lt])

end Idle

/-- What is skipped consists of blanks and comments. -/
structure Skipped (mode : Mode) (cs skipped left : List Char) : Prop where
  whole : skipped ++ left = cs
  splits : ∃ rs, Splits mode (encode skipped) rs .code (encode left) ∧ ∀ i < bytes skipped, Idle rs (encode skipped) i

theorem Skipped.after {skipped : List Char} (skips : Skipped mode' rest skipped left)
    (splits : Splits mode (encode front) rs mode' (encode rest)) (idle : ∀ i < bytes front, Idle rs (encode front) i) :
    Skipped mode (front ++ rest) (front ++ skipped) left := by
  obtain ⟨rfl, rs', splits', idle'⟩ := skips
  rw [encode_append] at splits
  refine ⟨List.append_assoc _ _ _, rs ++ rs', ?_, ?_⟩
  · rw [encode_append]
    exact splits.trans splits'
  · intro i lt
    rw [bytes_append] at lt
    rw [encode_append]
    by_cases inFront : i < bytes front
    · exact (idle_front splits.length (by rwa [length_encode])).mpr (idle i inFront)
    · obtain ⟨j, rfl⟩ : ∃ j, i = (encode front).length + j := ⟨i - bytes front, by rw [length_encode]; omega⟩
      rw [length_encode] at lt
      exact (idle_back splits.length j).mpr (idle' j (by omega))

theorem Skipped.blank {skipped : List Char} (skips : Skipped .code rest skipped left) (blank : isAsciiBlank c = true) :
    Skipped .code (c :: rest) (c :: skipped) left := by
  have small : c.val ≤ 127 := by
    by_contra large
    simp [isAsciiBlank_large large] at blank
  have plain : ∀ d, isAsciiBlank d = false → c ≠ d := by
    rintro d solid rfl
    simp [blank] at solid
  have quote : ¬ (c == '"') = true := by simpa using plain '"' (by decide)
  have splits : Splits .code (encode [c]) _ _ (encode rest) :=
    splits_code fun _ same => absurd same (plain '(' (by decide))
  rw [if_neg quote] at splits
  apply skips.after splits
  intro i lt
  right
  have alone : encode [c] = [c.toUInt8] := encode_small small
  have one : c.utf8Size = 1 := Char.utf8Size_eq_one_iff.mpr small
  obtain rfl : i = 0 := by simpa [one] using lt
  rw [alone, one]
  exact ⟨rfl, by simpa [blankByte_ascii small] using blank⟩

theorem gap_skips (notString : mode ≠ .string) {skipped : List Char} (h : gap mode cs = (skipped, left)) :
    Skipped mode cs skipped left := by
  have marks : ∀ {mode mode' : Mode} {front rest skipped left : List Char}, Skipped mode' rest skipped left →
      Splits mode (encode front) (List.replicate (bytes front) .comment) mode' (encode rest) →
      Skipped mode (front ++ rest) (front ++ skipped) left :=
    fun skips splits => skips.after splits fun i lt => idle_replicate _ lt
  have inCode : ∀ {mode : Mode}, mode ≠ .string → (∀ depth, mode = .comment depth → False) → mode = .code := by
    intro mode notString plain
    cases mode with
    | code => rfl
    | string => exact absurd rfl notString
    | comment depth => exact absurd rfl (plain depth)
  fun_induction gap mode cs generalizing skipped left with
  | case1 mode =>
    obtain ⟨rfl, rfl⟩ : [] = skipped ∧ [] = left := by simpa using h
    exact ⟨rfl, [], ⟨rfl, by simp [encode, roles]⟩, fun i lt => absurd lt (Nat.not_lt_zero i)⟩
  | case2 depth rest sk l hg ih =>
    obtain ⟨rfl, rfl⟩ : _ = skipped ∧ l = left := by simpa using h
    exact marks (ih (by simp) hg) (splits_deeper depth rest)
  | case3 depth rest sk l hg ih =>
    obtain ⟨rfl, rfl⟩ : _ = skipped ∧ l = left := by simpa using h
    exact marks (ih (by cases depth <;> simp [Mode.afterComment]) hg) (splits_closing depth rest)
  | case4 depth c rest opens closes sk l hg ih =>
    obtain ⟨rfl, rfl⟩ : _ = skipped ∧ l = left := by simpa using h
    exact marks (ih notString hg) (splits_comment opens closes)
  | case5 mode rest plain sk l hg ih =>
    obtain ⟨rfl, rfl⟩ : _ = skipped ∧ l = left := by simpa using h
    obtain rfl := inCode notString plain
    exact marks (ih (by simp) hg) (splits_opening rest)
  | case6 mode c rest _ _ plain _ blank sk l hg ih =>
    obtain ⟨rfl, rfl⟩ : _ = skipped ∧ l = left := by simpa using h
    obtain rfl := inCode notString plain
    exact (ih notString hg).blank blank
  | case7 mode c rest _ _ plain _ solid =>
    obtain ⟨rfl, rfl⟩ : [] = skipped ∧ c :: rest = left := by simpa using h
    obtain rfl := inCode notString plain
    exact ⟨rfl, [], .nil .code _, fun i lt => absurd lt (Nat.not_lt_zero i)⟩

theorem gap_solid (h : gap .code (c :: rest) = ([], c :: rest)) :
    (roles .code (encode (c :: rest)))[0]? = some .code ∧ (encode (c :: rest))[0]?.any blankByte = false := by
  have other : ∀ more, c = '(' → rest = '*' :: more → False := by
    rintro more rfl rfl
    simp [gap] at h
  have solid : isAsciiBlank c = false := by
    by_contra blank
    rw [gap.eq_6 _ _ _ other (fun _ _ m => by cases m) (fun _ _ m => by cases m) (fun _ m => by cases m),
      if_pos (by simpa using blank)] at h
    simp at h
  have splits := splits_code other
  have size := c.utf8Size_pos
  constructor
  · rw [encode_cons, splits.roles, List.getElem?_append_left (by simpa using size), List.getElem?_replicate, if_pos size]
  · rw [encode_cons, List.getElem?_append_left (by rw [length_encode]; simpa using size)]
    rcases encode_cases c with ⟨small, alone⟩ | ⟨-, high⟩
    · rw [alone]
      simpa [blankByte_ascii small] using solid
    · cases own : (encode [c])[0]? with
      | none => rfl
      | some b => exact blankByte_high (high b (List.mem_of_getElem? own))

/-! ## Scripts -/

/-- A statement lies where its offsets say, behind the end of the one before it: between the two are only blanks and
comments, its first byte is code and not blank, and its text is what lies between its offsets. -/
structure Located (bs : List UInt8) (previous : Nat) (s : Statement) : Prop where
  solid : s.start < s.stop
  behind : previous ≤ s.start
  gap : ∀ i, previous ≤ i → i < s.start → Idle (roles .code bs) bs i
  start : (roles .code bs)[s.start]? = some .code ∧ bs[s.start]?.any blankByte = false
  text : utf8 s.text = (bs.take s.stop).drop s.start

theorem Skipped.stops {skipped : List Char} (skips : Skipped mode cs skipped left) :
    fullStops mode (encode cs) = (fullStops .code (encode left)).map (bytes skipped + ·) := by
  obtain ⟨rfl, rs, splits, idle⟩ := skips
  rw [encode_append, ← length_encode]
  apply splits.fullStops_quiet
  intro i code period
  obtain ⟨lt, -⟩ := List.getElem?_eq_some_iff.mp period
  rw [length_encode] at lt
  rcases idle i lt with comment | ⟨-, blank⟩
  · simp [comment] at code
  · simp [period, blankByte] at blank

/-- What is read as the next statement, and the gap before it. -/
theorem next?_found {offset : Nat} {s : Statement} (h : next? offset none cs = some (s, left)) :
    ∃ skipped taken, s = ⟨String.ofList taken, offset + bytes skipped, offset + bytes skipped + bytes taken⟩ ∧
      taken ≠ [] ∧ gap .code (taken ++ left) = ([], taken ++ left) ∧ Skipped .code cs skipped (taken ++ left) ∧
      Found .code (taken ++ left) taken left := by
  obtain ⟨skipped, taken, hg, hb, rfl⟩ := next?_eq h
  have found := body_agrees .code skipped.getLast? (taken ++ left)
  rw [hb] at found
  exact ⟨skipped, taken, rfl, body_ne_nil hb, gap_gap hg, gap_skips (by simp) hg, found⟩

theorem next?_stops {offset : Nat} {s : Statement} (h : next? offset none cs = some (s, left)) :
    (fullStops .code (encode cs)).map (offset + ·) = s.stop :: (fullStops .code (encode left)).map (s.stop + ·) := by
  obtain ⟨skipped, taken, rfl, -, -, skips, found⟩ := next?_found h
  simp only [skips.stops, found.stops, List.map_cons, List.map_map, Nat.add_assoc]
  congr 2

theorem next?_none_stops {offset : Nat} (h : next? offset none cs = none) : fullStops .code (encode cs) = [] := by
  have skips : Skipped .code cs (gap .code cs).1 (gap .code cs).2 := gap_skips (by simp) rfl
  have agrees := body_agrees .code ((gap .code cs).1.getLast?.or none) (gap .code cs).2
  simp only [next?, Option.map_eq_none_iff] at h
  rw [h, Agrees] at agrees
  rw [skips.stops, agrees, List.map_nil]

theorem allFrom_stops (offset : Nat) (cs : List Char) :
    (allFrom offset cs).map (·.stop) = (fullStops .code (encode cs)).map (offset + ·) := by
  fun_induction allFrom offset cs with
  | case1 offset cs none => rw [next?_none_stops none, List.map_nil, List.map_nil]
  | case2 offset cs first left read ih => rw [List.map_cons, ih, next?_stops read]

/-- The next statement lies where its offsets say, behind what was read before. -/
theorem next?_located {before : List Char} {s : Statement} (splits : Splits .code (encode before) rs .code (encode cs))
    (h : next? (bytes before) none cs = some (s, left)) :
    Located (encode (before ++ cs)) (bytes before) s ∧
      ∃ more rs', cs = more ++ left ∧ s.stop = bytes (before ++ more) ∧
        Splits .code (encode (before ++ more)) rs' .code (encode left) := by
  obtain ⟨skipped, taken, rfl, some, solid, ⟨rfl, rs₁, splits₁, idle⟩, ⟨-, ⟨rs₂, splits₂⟩, -⟩⟩ := next?_found h
  rw [encode_append skipped] at splits
  have upTo := splits.trans splits₁
  rw [← encode_append] at upTo
  have whole : encode (before ++ (skipped ++ (taken ++ left))) = encode (before ++ skipped) ++ encode (taken ++ left) := by
    rw [← List.append_assoc, encode_append (before ++ skipped)]
  have start : bytes before + bytes skipped = (encode (before ++ skipped)).length := by
    rw [length_encode, bytes_append]
  refine ⟨⟨?_, Nat.le_add_right _ _, ?_, ?_, ?_⟩, skipped ++ taken, (rs ++ rs₁) ++ rs₂, ?_, ?_, ?_⟩
  · have := bytes_pos some
    show bytes before + bytes skipped < bytes before + bytes skipped + bytes taken
    omega
  · intro i ge lt
    obtain ⟨j, rfl⟩ := Nat.exists_eq_add_of_le ge
    have inside : j < bytes skipped := Nat.add_lt_add_iff_left.mp lt
    rw [whole, upTo.roles, encode_append before, List.append_assoc, List.append_assoc, ← length_encode before]
    exact (idle_back splits.length j).mpr ((idle_front splits₁.length (by rwa [length_encode])).mpr (idle j inside))
  · obtain ⟨c, rest, same⟩ := List.exists_cons_of_ne_nil (List.append_ne_nil_of_left_ne_nil some left)
    rw [same] at solid
    have first := gap_solid solid
    have role := upTo.role 0
    rw [← same] at first
    rw [Nat.add_zero] at role
    simp only [whole, start]
    rw [role, List.getElem?_append_right (Nat.le_refl _), Nat.sub_self]
    exact first
  · simp only [encode_ofList, whole, start]
    rw [encode_append taken, ← length_encode taken, ← List.append_assoc, ← List.length_append, List.take_left,
      List.drop_left]
  · rw [List.append_assoc]
  · simp only [bytes_append, Nat.add_assoc]
  · rw [encode_append taken] at upTo
    have all := upTo.trans splits₂
    rwa [← encode_append, List.append_assoc] at all

theorem allFrom_located (before : List Char) (splits : Splits .code (encode before) rs .code (encode cs)) :
    ∀ previous s, (previous, s) ∈ (bytes before :: (allFrom (bytes before) cs).map (·.stop)).zip
        (allFrom (bytes before) cs) → Located (encode (before ++ cs)) previous s := by
  -- Offsets count from the beginning of the script, so the induction carries what was read before.
  generalize same : bytes before = offset
  fun_induction allFrom offset cs generalizing before rs with
  | case1 offset cs none => simp
  | case2 offset cs first left read ih =>
    subst same
    obtain ⟨located, more, rs', rfl, stop, splits'⟩ := next?_located splits read
    intro previous s mem
    rw [List.map_cons, List.zip_cons_cons, List.mem_cons] at mem
    rcases mem with here | later
    · obtain ⟨rfl, rfl⟩ := Prod.mk.inj here
      exact located
    · rw [← List.append_assoc]
      exact ih (before ++ more) splits' stop.symm previous s later

end Statement

open Statement

/-- The statements of a script end at its full stops, in order, and each of them lies behind the one before with only
blanks and comments between them. -/
theorem statements_end_at_full_stops (script : String) :
    (all script).map (·.stop) = fullStops .code (utf8 script) ∧
      ∀ p ∈ (0 :: (all script).map (·.stop)).zip (all script), Located (utf8 script) p.1 p.2 := by
  rw [utf8_eq]
  constructor
  · rw [all, allFrom_stops]
    simp
  · rintro ⟨previous, s⟩ mem
    exact allFrom_located [] (.nil .code _) previous s mem

theorem statements_end_at_full_stops_nested :
    (29, ⟨"Go.", 44, 47⟩) ∈ (0 :: (all "Check é \"(*\". (*) a. *) Qed.\n(* (* \". *) *)Go.").map (·.stop)).zip
        (all "Check é \"(*\". (*) a. *) Qed.\n(* (* \". *) *)Go.") ∧
      Located (utf8 "Check é \"(*\". (*) a. *) Qed.\n(* (* \". *) *)Go.") 29 ⟨"Go.", 44, 47⟩ := by
  have mem : (29, ⟨"Go.", 44, 47⟩) ∈ (0 :: (all "Check é \"(*\". (*) a. *) Qed.\n(* (* \". *) *)Go.").map (·.stop)).zip
      (all "Check é \"(*\". (*) a. *) Qed.\n(* (* \". *) *)Go.") := by decide +kernel
  exact ⟨mem, (statements_end_at_full_stops _).2 _ mem⟩

end Frontier
