import Frontier.Proofs.Grammar

/-!
# Scanning bytes

A script is scanned byte by byte; a backslash in a string and the marks of a comment are passed two bytes at a time,
whatever the second one is. What is found is cut out of the script where it was seen to begin and to end. The scan never
reads a byte that is not there and never cuts a character in two, and what it finds is the next statement.
-/

namespace Frontier
open Text Statement

/-! ## Access to bytes -/

namespace Scan

/-- What the bytes of a text do not allow. -/
inductive Stray where
  /-- There is no byte at the offset. -/
  | read (i : Nat)
  /-- The offsets are not in order, or do not lie between characters. -/
  | cut (start stop : Nat)
  deriving DecidableEq, Repr

def readAt (bs : List UInt8) (i : Nat) : Except Stray UInt8 :=
  match bs[i]? with
  | some b => .ok b
  | none => .error (.read i)

/-- Whether a byte goes on with a character. -/
def continues (b : UInt8) : Bool := 0x80 ≤ b && b < 0xC0

/-- Whether an offset lies between characters. -/
def between (bs : List UInt8) (i : Nat) : Bool :=
  match bs[i]? with
  | some b => !continues b
  | none => i == bs.length

def cut (bs : List UInt8) (start stop : Nat) : Except Stray (List UInt8) :=
  if start ≤ stop ∧ between bs start ∧ between bs stop then .ok ((bs.take stop).drop start)
  else .error (.cut start stop)

/-- The first offset between characters at or after another one; an offset behind the end stays as it is. -/
def settle (bs : List UInt8) (i : Nat) : Nat :=
  if i < bs.length then
    if between bs i then i else settle bs (i + 1)
  else i
termination_by bs.length - i

/-! ## The scan -/

def opensAt (bs : List UInt8) (i : Nat) : Bool := bs[i]? == some 0x28 && bs[i + 1]? == some 0x2A

def closesAt (bs : List UInt8) (i : Nat) : Bool := bs[i]? == some 0x2A && bs[i + 1]? == some 0x29

def digitByte (b : UInt8) : Bool := 0x30 ≤ b && b ≤ 0x39

def digitBefore (bs : List UInt8) (i : Nat) : Except Stray Bool :=
  if 0 < i then digitByte <$> readAt bs (i - 1) else return false

/-- Whether a period at an offset ends a statement. -/
def terminates (bs : List UInt8) (i : Nat) : Except Stray Bool := do
  let digit ← digitBefore bs i
  match bs[i + 1]? with
  | none => return true
  | some next =>
    if digitByte next && digit then return false
    else return blankByte next || opensAt bs (i + 1)

/-- Whether a byte of code ends a statement. -/
def stopsAt (bs : List UInt8) (i : Nat) (b : UInt8) : Except Stray Bool :=
  if b = 0x2E then terminates bs i else return false

/-- A piece of a script, and where it begins and ends. -/
structure Piece where
  text : List UInt8
  start : Nat
  stop : Nat
  deriving DecidableEq, Repr

def piece (bs : List UInt8) (start stop : Nat) : Except Stray (Option Piece) :=
  (cut bs start stop).map fun text => some ⟨text, start, stop⟩

/-- Scans from an offset on; `start` is where the statement began, if it has begun. -/
def scanFrom (bs : List UInt8) (i : Nat) (mode : Mode) (start : Option Nat) : Except Stray (Option Piece) :=
  if _inside : i < bs.length then do
    let b ← readAt bs i
    match mode with
    | .string =>
      if b = 0x5C then scanFrom bs (i + 2) .string start
      else scanFrom bs (i + 1) (if b = 0x22 then .code else .string) start
    | .comment depth =>
      if opensAt bs i then scanFrom bs (i + 2) (.comment (depth + 1)) start
      else if closesAt bs i then scanFrom bs (i + 2) (.afterComment depth) start
      else scanFrom bs (i + 1) (.comment depth) start
    | .code =>
      if opensAt bs i then scanFrom bs (i + 2) (.comment 0) start
      else if blankByte b then scanFrom bs (i + 1) .code start
      else
        let first := start.getD i
        let stops ← stopsAt bs i b
        if stops then piece bs first (i + 1)
        else scanFrom bs (i + 1) (if b = 0x22 then .string else .code) (some first)
  else return none
termination_by bs.length - i

/-- Scans for the next statement from an offset on. -/
def scan (bs : List UInt8) (offset : Nat) : Except Stray (Option Piece) := scanFrom bs (settle bs offset) .code none

/-! ## One step -/

theorem closes_cons (c : UInt8) (rest : List UInt8) :
    closes (c :: rest) = (blankByte c || (c == 0x28 && rest.head? == some 0x2A)) := by
  by_cases opens : ∃ more, c = 0x28 ∧ rest = 0x2A :: more
  · obtain ⟨more, rfl, rfl⟩ := opens
    rfl
  · have other : ∀ more, c = 0x28 → rest = 0x2A :: more → False := fun more first second => opens ⟨more, first, second⟩
    rw [closes.eq_3 _ _ other, not_pair other, Bool.or_false]

theorem digit_plain {c : UInt8} (digit : digitByte c = true) : blankByte c = false ∧ (c == 0x28) = false := by
  simp only [digitByte, Bool.and_eq_true, decide_eq_true_eq] at digit
  have plain : ∀ d : UInt8, d < 0x30 → c ≠ d := by
    rintro _ small rfl
    exact absurd digit.1 (UInt8.not_le.mpr small)
  simp [blankByte, plain]

theorem scanFrom_end {bs : List UInt8} {i : Nat} (mode : Mode) (start : Option Nat) (beyond : bs.length ≤ i) :
    scanFrom bs i mode start = .ok none := by
  rw [scanFrom, dif_neg (Nat.not_lt.mpr beyond)]
  rfl

section Here
variable {bs more : List UInt8} {i : Nat} {b : UInt8} (here : bs.drop i = b :: more)
include here

theorem inside : i < bs.length := by
  by_contra beyond
  rw [List.drop_eq_nil_of_le (Nat.not_lt.mp beyond)] at here
  cases here

theorem getElem?_here : bs[i]? = some b := by
  have first := congrArg List.head? here
  rwa [List.head?_drop, List.head?_cons] at first

theorem drop_next : bs.drop (i + 1) = more := by
  rw [← List.drop_drop, here, List.drop_one, List.tail_cons]

theorem getElem?_next : bs[i + 1]? = more.head? := by
  rw [← List.head?_drop, drop_next here]

theorem readAt_here : readAt bs i = .ok b := by
  rw [readAt, getElem?_here here]

theorem opensAt_here : opensAt bs i = (b == 0x28 && more.head? == some 0x2A) := by
  rw [opensAt, getElem?_here here, getElem?_next here]
  rfl

theorem closesAt_here : closesAt bs i = (b == 0x2A && more.head? == some 0x29) := by
  rw [closesAt, getElem?_here here, getElem?_next here]
  rfl

theorem digitBefore_here : ∃ digit, digitBefore bs i = .ok digit := by
  have := inside here
  unfold digitBefore readAt
  split
  · rw [List.getElem?_eq_getElem (show i - 1 < bs.length by omega)]
    exact ⟨_, rfl⟩
  · exact ⟨false, rfl⟩

/-- A digit is neither blank nor the mark of a comment, so it does not matter what was before the period. -/
theorem terminates_here : terminates bs i = .ok (closes more) := by
  obtain ⟨digit, before⟩ := digitBefore_here here
  have next := drop_next here
  rw [terminates, before, getElem?_next here]
  cases more with
  | nil => rfl
  | cons c rest =>
    simp only [List.head?_cons, bind, Except.bind, pure, Except.pure, opensAt_here next, closes_cons]
    by_cases both : (digitByte c && digit) = true
    · obtain ⟨solid, other⟩ := digit_plain (Bool.and_eq_true_iff.mp both).1
      rw [if_pos both, solid, other]
      rfl
    · rw [if_neg both]

theorem stopsAt_here : stopsAt bs i b = .ok (b == 0x2E && closes more) := by
  unfold stopsAt
  by_cases period : b = 0x2E
  · rw [if_pos period, terminates_here here, period]
    rfl
  · rw [if_neg period, beq_eq_false_iff_ne.mpr period]
    rfl

theorem scanFrom_string (start : Option Nat) : scanFrom bs i .string start =
    if b = 0x5C then scanFrom bs (i + 2) .string start
    else scanFrom bs (i + 1) (if b = 0x22 then .code else .string) start := by
  rw [scanFrom, dif_pos (inside here), readAt_here here]
  rfl

theorem scanFrom_comment (depth : Nat) (start : Option Nat) : scanFrom bs i (.comment depth) start =
    if b == 0x28 && more.head? == some 0x2A then scanFrom bs (i + 2) (.comment (depth + 1)) start
    else if b == 0x2A && more.head? == some 0x29 then scanFrom bs (i + 2) (.afterComment depth) start
    else scanFrom bs (i + 1) (.comment depth) start := by
  rw [scanFrom, dif_pos (inside here), readAt_here here, ← opensAt_here here, ← closesAt_here here]
  rfl

theorem scanFrom_code (start : Option Nat) : scanFrom bs i .code start =
    if b == 0x28 && more.head? == some 0x2A then scanFrom bs (i + 2) (.comment 0) start
    else if blankByte b then scanFrom bs (i + 1) .code start
    else if b == 0x2E && closes more then piece bs (start.getD i) (i + 1)
    else scanFrom bs (i + 1) (if b = 0x22 then .string else .code) (some (start.getD i)) := by
  rw [scanFrom, dif_pos (inside here), readAt_here here, ← opensAt_here here]
  simp only [bind, Except.bind, stopsAt_here here]

end Here

/-! ## The outcome -/

/-- Where the first byte of code that is not blank stands. -/
def firstSolid (mode : Mode) (bs : List UInt8) : Option Nat :=
  ((roles mode bs).zip bs).findIdx? fun (role, b) => role == .code && !blankByte b

/-- The piece up to the first full stop, from where a statement began or else begins. -/
def outcome (bs : List UInt8) (i : Nat) (start : Option Nat) (mode : Mode) (rest : List UInt8) :
    Except Stray (Option Piece) :=
  match start.or ((firstSolid mode rest).map (i + ·)), (fullStops mode rest).head? with
  | some first, some n => piece bs first (i + n)
  | _, _ => .ok none

variable {mode mode' : Mode} {front back : List UInt8} {rs : List Role}

/-- Bytes among which all code is blank. -/
def Hollow (rs : List Role) (front : List UInt8) : Prop :=
  ∀ (i : Nat) (b : UInt8), rs[i]? = some Role.code → front[i]? = some b → blankByte b = true

theorem hollow_replicate {role : Role} (other : role ≠ .code) (n : Nat) (front : List UInt8) :
    Hollow (List.replicate n role) front := by
  intro i b code _
  rw [List.getElem?_replicate] at code
  split at code
  · exact absurd (Option.some.inj code) other
  · cases code

theorem hollow_idle (idle : ∀ i < front.length, Idle rs front i) : Hollow rs front := by
  intro i b code byte
  obtain ⟨bound, -⟩ := List.getElem?_eq_some_iff.mp byte
  rcases idle i bound with comment | ⟨-, blank⟩
  · simp [comment] at code
  · simpa [byte] using blank

theorem Hollow.firstSolid (hollow : Hollow rs front) (splits : Splits mode front rs mode' back) :
    firstSolid mode (front ++ back) = (firstSolid mode' back).map (front.length + ·) := by
  have none : (rs.zip front).findIdx? (fun (role, b) => role == .code && !blankByte b) = none := by
    rw [List.findIdx?_eq_none_iff]
    rintro ⟨role, b⟩ mem
    obtain ⟨i, same⟩ := List.getElem?_of_mem mem
    obtain ⟨hr, hb⟩ := List.getElem?_zip_eq_some.mp same
    by_cases code : role = .code
    · simp [hollow i b (code ▸ hr) hb]
    · simp [code]
  rw [Scan.firstSolid, splits.roles, List.zip_append splits.length, List.findIdx?_append, none, List.length_zip,
    splits.length, Nat.min_self, Option.none_or, Scan.firstSolid]
  simp only [Nat.add_comm]

theorem outcome_shift (front : List UInt8) {bs : List UInt8} {i : Nat} {start start' : Option Nat}
    (stops : fullStops mode (front ++ back) = (fullStops mode' back).map (front.length + ·))
    (begins : start.or ((firstSolid mode (front ++ back)).map (i + ·)) =
      start'.or ((firstSolid mode' back).map (i + front.length + ·))) :
    outcome bs i start mode (front ++ back) = outcome bs (i + front.length) start' mode' back := by
  rw [outcome, outcome, begins, stops, List.head?_map]
  cases (fullStops mode' back).head? with
  | none => simp
  | some n =>
    cases start'.or ((firstSolid mode' back).map (i + front.length + ·)) with
    | none => rfl
    | some first => simp only [Option.map_some, Nat.add_assoc]

/-- Blanks, strings and comments may be left out. -/
theorem Hollow.outcome {bs : List UInt8} {i : Nat} {start : Option Nat} (hollow : Hollow rs front)
    (splits : Splits mode front rs mode' back) :
    outcome bs i start mode (front ++ back) = outcome bs (i + front.length) start mode' back := by
  apply outcome_shift front
  · apply splits.fullStops_quiet
    intro j code period
    exact absurd (hollow j _ code period) (by decide)
  · rw [hollow.firstSolid splits, Option.map_map]
    simp only [Function.comp_def, Nat.add_assoc]

theorem firstSolid_solid {b : UInt8} (code : (roles mode (b :: back))[0]? = some .code) (solid : blankByte b = false) :
    firstSolid mode (b :: back) = some 0 := by
  obtain ⟨rest, same⟩ := List.head?_eq_some_iff.mp (List.head?_eq_getElem? ▸ code)
  rw [firstSolid, same]
  simp [List.findIdx?_cons, solid]

theorem not_quote_blank {b : UInt8} (blank : blankByte b = true) : ¬ b = 0x22 := by
  rintro rfl
  exact absurd blank (by decide)

section Code
variable {b : UInt8} {bs rest : List UInt8} {i : Nat} {start : Option Nat}
  (other : ∀ more, b = 0x28 → rest = 0x2A :: more → False)
include other

theorem splits_byte : Splits .code [b] [.code] (if b = 0x22 then .string else .code) rest :=
  ⟨rfl, roles.eq_3 b rest other⟩

theorem outcome_blank (blank : blankByte b = true) :
    outcome bs i start .code (b :: rest) = outcome bs (i + 1) start .code rest := by
  have splits := splits_byte other
  rw [if_neg (not_quote_blank blank)] at splits
  apply Hollow.outcome _ splits
  intro j c _ byte
  rwa [List.mem_singleton.mp (List.mem_of_getElem? byte)]

theorem firstSolid_code (solid : ¬ blankByte b = true) : firstSolid .code (b :: rest) = some 0 := by
  apply firstSolid_solid
  · rw [roles.eq_3 b rest other]
    rfl
  · simpa using solid

theorem outcome_stop (solid : ¬ blankByte b = true) (stops : (b == 0x2E && closes rest) = true) :
    outcome bs i start .code (b :: rest) = piece bs (start.getD i) (i + 1) := by
  have first := firstSolid_code other solid
  obtain ⟨rfl, closing⟩ : b = 0x2E ∧ closes rest = true := by simpa using stops
  rw [outcome, first, fullStops_stop, if_pos closing]
  cases start <;> rfl

/-- A byte of code that is not blank belongs to a statement, which begins with it if it has not begun. -/
theorem outcome_solid (solid : ¬ blankByte b = true) (goes : ¬ (b == 0x2E && closes rest) = true) :
    outcome bs i start .code (b :: rest) =
      outcome bs (i + 1) (some (start.getD i)) (if b = 0x22 then .string else .code) rest := by
  have stops : fullStops .code ([b] ++ rest) =
      (fullStops (if b = 0x22 then .string else .code) rest).map (1 + ·) := by
    by_cases period : b = 0x2E
    · subst period
      have open' : ¬ closes rest = true := by simpa using goes
      rw [List.singleton_append, fullStops_stop, if_neg open', List.nil_append, if_neg (by decide)]
    · apply (splits_byte other).fullStops_quiet
      intro j _ byte
      exact period (List.mem_singleton.mp (List.mem_of_getElem? byte)).symm
  apply outcome_shift [b] stops
  rw [List.singleton_append, firstSolid_code other solid]
  cases start <;> rfl

end Code

/-- Strings and comments are passed; what is found lies behind them. -/
theorem outcome_passed {bs : List UInt8} {i : Nat} {start : Option Nat} {role : Role} (front : List UInt8) (n : Nat)
    (other : role ≠ .code) (splits : Splits mode front (List.replicate n role) mode' back) :
    outcome bs (i + front.length) start mode' back = outcome bs i start mode (front ++ back) :=
  ((hollow_replicate other n front).outcome splits).symm

theorem scanFrom_eq {bs : List UInt8} {i : Nat} {start : Option Nat} {mode : Mode} {rest : List UInt8}
    (here : bs.drop i = rest) : scanFrom bs i mode start = outcome bs i start mode rest := by
  have comment : Role.comment ≠ .code := by decide
  have string : Role.string ≠ .code := by decide
  fun_induction roles mode rest generalizing i start with
  | case1 mode =>
    rw [scanFrom_end mode start (List.drop_eq_nil_iff.mp here)]
    simp [outcome, fullStops]
  | case2 rest ih =>
    rw [scanFrom_code here, if_pos (by simp), ih (drop_next (drop_next here))]
    exact outcome_passed [0x28, 0x2A] 2 comment ⟨rfl, rfl⟩
  | case3 b rest other ih =>
    have next := drop_next here
    rw [scanFrom_code here, not_pair other, if_neg (by decide)]
    by_cases blank : blankByte b = true
    · rw [if_neg (not_quote_blank blank)] at ih
      rw [if_pos blank, ih next, outcome_blank other blank]
    · rw [if_neg blank]
      by_cases stops : (b == 0x2E && closes rest) = true
      · rw [if_pos stops, outcome_stop other blank stops]
      · rw [if_neg stops, ih next, outcome_solid other blank stops]
  | case4 b rest ih =>
    rw [scanFrom_string here, if_pos rfl, ih (drop_next (drop_next here))]
    exact outcome_passed [0x5C, b] 2 string ⟨rfl, rfl⟩
  | case5 b rest other ih =>
    have next := drop_next here
    have passed : outcome bs (i + 1) start (if b = 0x22 then .code else .string) rest =
        outcome bs i start .string (b :: rest) := outcome_passed [b] 1 string ⟨rfl, roles.eq_5 b rest other⟩
    rw [scanFrom_string here]
    by_cases last : b = 0x5C
    · -- A backslash at the very end is passed together with a byte that is not there.
      obtain rfl : rest = [] := by
        cases rest with
        | nil => rfl
        | cons d more => exact absurd rfl (other d more last)
      have size := List.drop_eq_nil_iff.mp next
      rw [if_pos last, scanFrom_end _ _ (by omega), ← scanFrom_end (if b = 0x22 then .code else .string) start size,
        ih next, passed]
    · rw [if_neg last, ih next, passed]
  | case6 depth rest ih =>
    rw [scanFrom_comment here, if_pos (by simp), ih (drop_next (drop_next here))]
    exact outcome_passed [0x28, 0x2A] 2 comment ⟨rfl, rfl⟩
  | case7 depth rest ih =>
    rw [scanFrom_comment here, if_neg (by simp), if_pos (by simp), ih (drop_next (drop_next here))]
    exact outcome_passed [0x2A, 0x29] 2 comment ⟨rfl, rfl⟩
  | case8 depth b rest opens closes ih =>
    rw [scanFrom_comment here, not_pair opens, not_pair closes, if_neg (by decide), if_neg (by decide),
      ih (drop_next here)]
    exact outcome_passed [b] 1 comment ⟨rfl, roles.eq_8 _ _ _ opens closes⟩

/-! ## Characters -/

theorem continues_tail (n : Nat) : continues (UInt8.ofNat (n % 64 + 128)) = true := by
  simp [continues, UInt8.le_iff_toNat_le, UInt8.lt_iff_toNat_lt]
  omega

theorem continues_ofNat {n : Nat} (lead : n < 128 ∨ 192 ≤ n) (byte : n < 256) :
    continues (UInt8.ofNat n) = false := by
  simp [continues, UInt8.le_iff_toNat_le, UInt8.lt_iff_toNat_lt]
  omega

/-- All bytes of a character but the first go on with it. -/
theorem encode_continues (c : Char) :
    ∃ b bs, encode [c] = b :: bs ∧ continues b = false ∧ ∀ d ∈ bs, continues d = true := by
  have one : ∀ {n : Nat}, ∀ d ∈ [UInt8.ofNat (n % 64 + 128)], continues d = true := by
    intro n d mem
    rw [List.mem_singleton.mp mem, continues_tail]
  have more : ∀ {n : Nat} {bs : List UInt8}, (∀ d ∈ bs, continues d = true) →
      ∀ d ∈ UInt8.ofNat (n % 64 + 128) :: bs, continues d = true :=
    fun rest => List.forall_mem_cons.mpr ⟨continues_tail _, rest⟩
  rw [encode_singleton, String.utf8EncodeChar]
  split
  · exact ⟨_, _, rfl, continues_ofNat (by omega) (by omega), by simp⟩
  · split
    · exact ⟨_, _, rfl, continues_ofNat (by omega) (by omega), one⟩
    · split
      · exact ⟨_, _, rfl, continues_ofNat (by omega) (by omega), more one⟩
      · exact ⟨_, _, rfl, continues_ofNat (by omega) (by omega), more (more one)⟩

theorem getElem?_encode (front rest : List Char) (n : Nat) :
    (encode (front ++ rest))[bytes front + n]? = (encode rest)[n]? := by
  rw [encode_append, ← length_encode, List.getElem?_append_right (Nat.le_add_right _ _), Nat.add_sub_cancel_left]

/-- Where characters meet, an offset lies between them. -/
theorem between_encode (front rest : List Char) : between (encode (front ++ rest)) (bytes front) = true := by
  have byte := getElem?_encode front rest 0
  rw [Nat.add_zero] at byte
  rw [between, byte]
  cases rest with
  | nil => simp [encode, ← length_encode]
  | cons c rest =>
    obtain ⟨b, bs, own, lead, -⟩ := encode_continues c
    rw [encode_cons, own]
    simp [lead]

theorem not_between_encode {front rest : List Char} {c : Char} {n : Nat} (some : 0 < n) (inside : n < c.utf8Size) :
    between (encode (front ++ c :: rest)) (bytes front + n) = false := by
  obtain ⟨b, bs, own, -, tail⟩ := encode_continues c
  have size := length_encode [c]
  rw [own, List.length_cons, bytes_cons, bytes_nil, Nat.add_zero] at size
  obtain ⟨m, rfl⟩ : ∃ m, n = m + 1 := ⟨n - 1, by omega⟩
  have byte := List.getElem?_eq_getElem (show m < bs.length by omega)
  rw [between, getElem?_encode, encode_cons, own, List.cons_append, List.getElem?_cons_succ,
    List.getElem?_append_left (by omega), byte]
  simp [tail _ (List.mem_of_getElem? byte)]

theorem settle_between {bs : List UInt8} {i : Nat} (settled : between bs i = true) : settle bs i = i := by
  unfold settle
  simp [settled]

theorem settle_encode_inside {front rest : List Char} {c : Char} {n : Nat} (some : 0 < n) (within : n ≤ c.utf8Size) :
    settle (encode (front ++ c :: rest)) (bytes front + n) = bytes front + c.utf8Size := by
  have behind := between_encode (front ++ [c]) rest
  rw [bytes_append, List.append_assoc] at behind
  induction missing : c.utf8Size - n generalizing n with
  | zero =>
    obtain rfl : n = c.utf8Size := by omega
    exact settle_between behind
  | succ k ih =>
    have bound : bytes front + n < (encode (front ++ c :: rest)).length := by
      rw [length_encode, bytes_append, bytes_cons]
      omega
    rw [settle, if_pos bound, not_between_encode some (by omega), if_neg (by decide)]
    exact ih (Nat.succ_pos n) (by omega) (by omega)

/-- An offset is moved behind the character that it cuts. -/
theorem settle_encode (front cs : List Char) (n : Nat) :
    settle (encode (front ++ cs)) (bytes front + n) = bytes front + max n (bytes (splitAt n cs).1) := by
  induction cs generalizing front n with
  | nil =>
    have beyond : ¬ bytes front + n < (encode (front ++ [])).length := by
      rw [length_encode, List.append_nil]
      omega
    rw [settle, if_neg beyond]
    simp [splitAt]
  | cons c cs ih =>
    cases n with
    | zero => simpa [splitAt] using settle_between (between_encode front (c :: cs))
    | succ n =>
      rw [splitAt, bytes_cons]
      rcases Nat.lt_or_ge (n + 1) c.utf8Size with inside | beyond
      · rw [settle_encode_inside (Nat.succ_pos n) (Nat.le_of_lt inside), Nat.sub_eq_zero_of_le (Nat.le_of_lt inside)]
        have none : (splitAt 0 cs).1 = [] := by cases cs <;> rfl
        rw [none, bytes_nil]
        omega
      · have rest := ih (front ++ [c]) (n + 1 - c.utf8Size)
        rw [List.append_assoc, List.singleton_append, bytes_append, bytes_cons, bytes_nil, Nat.add_zero,
          show bytes front + c.utf8Size + (n + 1 - c.utf8Size) = bytes front + (n + 1) by omega] at rest
        rw [rest]
        omega
      · omega

theorem splits_at (offset : Nat) (script : String) :
    ∃ before after, splitAt offset script.toList = (before, after) ∧ before ++ after = script.toList :=
  ⟨_, _, rfl, splitAt_append offset script.toList⟩

theorem splitAt_le (n : Nat) (cs : List Char) (more : (splitAt n cs).2 ≠ []) : n ≤ bytes (splitAt n cs).1 := by
  induction cs generalizing n with
  | nil => exact absurd rfl more
  | cons c cs ih =>
    cases n with
    | zero => exact Nat.zero_le _
    | succ n =>
      have := ih (n + 1 - c.utf8Size) (by simpa [splitAt] using more)
      simp only [splitAt, bytes_cons]
      omega

/-! ## The next statement -/

theorem encode_some {cs : List Char} (some : cs ≠ []) : ∃ b bs, encode cs = b :: bs := by
  obtain ⟨c, rest, rfl⟩ := List.exists_cons_of_ne_nil some
  obtain ⟨b, bs, own, -⟩ := encode_head c
  exact ⟨b, bs ++ encode rest, by rw [encode_cons, own, List.cons_append]⟩

/-- The code behind a gap begins with a byte that is not blank. -/
theorem gap_first {cs : List Char} (some : cs ≠ []) (solid : gap .code cs = ([], cs)) :
    ∃ b bs, encode cs = b :: bs ∧ (roles .code (encode cs))[0]? = .some .code ∧ blankByte b = false := by
  obtain ⟨b, bs, own⟩ := encode_some some
  obtain ⟨c, rest, rfl⟩ := List.exists_cons_of_ne_nil some
  obtain ⟨code, plain⟩ := gap_solid solid
  exact ⟨b, bs, own, code, by simpa [own] using plain⟩

theorem firstSolid_gap {cs skipped left : List Char} (some : left ≠ []) (solid : gap .code left = ([], left))
    (skips : Skipped .code cs skipped left) : firstSolid .code (encode cs) = .some (bytes skipped) := by
  obtain ⟨rfl, rs, splits, idle⟩ := skips
  obtain ⟨b, bs, own, code, plain⟩ := gap_first some solid
  rw [← length_encode] at idle
  rw [own] at code
  rw [encode_append, (hollow_idle idle).firstSolid splits, own, firstSolid_solid code plain, Option.map_some,
    length_encode, Nat.add_zero]

/-- The bytes of a statement, where it begins and where it ends. -/
def Piece.ofStatement (s : Statement) : Piece := ⟨utf8 s.text, s.start, s.stop⟩

/-- A statement lies behind an offset, between characters, and is what the script has there. -/
structure Within (script : String) (offset : Nat) (s : Statement) : Prop where
  behind : offset ≤ s.start
  solid : s.start < s.stop
  inside : s.stop ≤ (utf8 script).length
  text : utf8 s.text = ((utf8 script).take s.stop).drop s.start
  chars : ∃ front back, script.toList = front ++ (s.text.toList ++ back) ∧ s.start = bytes front ∧
    s.stop = bytes (front ++ s.text.toList)
  first : ∃ b, (utf8 script)[s.start]? = some b ∧ blankByte b = false
  last : (utf8 script)[s.stop - 1]? = some 0x2E
  closing : closes ((utf8 script).drop s.stop) = true

theorem slice_encode (front middle back : List Char) :
    ((encode (front ++ (middle ++ back))).take (bytes (front ++ middle))).drop (bytes front) = encode middle := by
  rw [← List.append_assoc, encode_append (front ++ middle), ← length_encode (front ++ middle), List.take_left,
    encode_append front, ← length_encode front, List.drop_left]

theorem cut_encode (front middle back : List Char) :
    cut (encode (front ++ (middle ++ back))) (bytes front) (bytes (front ++ middle)) = .ok (encode middle) := by
  have stop := between_encode (front ++ middle) back
  rw [List.append_assoc] at stop
  rw [cut, if_pos ⟨by rw [bytes_append]; omega, between_encode front _, stop⟩, slice_encode]

/-- Scanned from between two characters, a script shows the statement that is read there. -/
theorem scanFrom_next (before after : List Char) :
    scanFrom (encode (before ++ after)) (bytes before) .code none =
      .ok ((next? (bytes before) none after).map fun (s, _) => .ofStatement s) := by
  have here : (encode (before ++ after)).drop (bytes before) = encode after := by
    rw [encode_append, ← length_encode, List.drop_left]
  rw [scanFrom_eq here, outcome, Option.none_or]
  cases read : next? (bytes before) none after with
  | none => simp [next?_none_stops read]
  | some found =>
    obtain ⟨s, left⟩ := found
    have stops := congrArg List.head? (next?_stops read)
    obtain ⟨skipped, taken, rfl, some, solid, skips, -⟩ := next?_found read
    obtain rfl := skips.whole
    have behind := List.append_ne_nil_of_left_ne_nil some left
    rw [List.head?_map, List.head?_cons] at stops
    obtain ⟨n, first, stop⟩ := Option.map_eq_some_iff.mp stops
    have cuts := cut_encode (before ++ skipped) taken left
    rw [bytes_append, bytes_append, bytes_append, List.append_assoc] at cuts
    rw [firstSolid_gap behind solid skips, first, Option.map_some]
    dsimp only at stop ⊢
    rw [stop, piece, cuts, Option.map_some, Piece.ofStatement, encode_ofList]
    rfl

/-- The scan finds the statement that is read from the next character on. -/
theorem scan_firstFrom (script : String) (offset : Nat) :
    scan (utf8 script) offset = .ok ((firstFrom script offset).map .ofStatement) := by
  obtain ⟨before, after, parts, whole⟩ := splits_at offset script
  have settled := settle_encode [] script.toList offset
  rw [List.nil_append, bytes_nil, Nat.zero_add, Nat.zero_add, parts] at settled
  dsimp only at settled
  rw [scan, utf8_eq, settled, ← whole]
  simp only [firstFrom, parts, next?_before, Option.map_map]
  by_cases more : after = []
  · subst more
    have beyond : (encode (before ++ [])).length ≤ max offset (bytes before) := by
      rw [length_encode, List.append_nil]
      exact Nat.le_max_right _ _
    rw [scanFrom_end _ _ beyond]
    simp [next?, gap, body]
  · have reached := splitAt_le offset script.toList (by rwa [parts])
    rw [parts] at reached
    rw [Nat.max_eq_right reached, scanFrom_next]
    rfl

theorem firstFrom_within {script : String} {offset : Nat} {s : Statement} (found : firstFrom script offset = some s) :
    Within script offset s := by
  obtain ⟨before, after, parts, whole⟩ := splits_at offset script
  simp only [firstFrom, parts, next?_before, Option.map_eq_some_iff, Prod.exists] at found
  obtain ⟨_, left, read, rfl⟩ := found
  have closing := closing_iff.mp (next?_closing read)
  obtain ⟨skipped, taken, hg, hb, rfl⟩ := next?_eq read
  have some := body_ne_nil hb
  have size := bytes_pos some
  have behind := List.append_ne_nil_of_left_ne_nil some left
  obtain rfl : skipped ++ (taken ++ left) = after := by rw [← gap_append .code after, hg]
  have reached : offset ≤ bytes before := by
    have := splitAt_le offset script.toList (by rw [parts]; simp [behind])
    rwa [parts] at this
  have made : utf8 script = encode ((before ++ skipped) ++ (taken ++ left)) := by
    rw [utf8_eq, ← whole, List.append_assoc]
  have start : bytes before + bytes skipped = bytes (before ++ skipped) := (bytes_append _ _).symm
  have stop : bytes before + bytes skipped + bytes taken = bytes (before ++ skipped ++ taken) := by
    rw [start, bytes_append _ taken]
  constructor
  case behind => exact Nat.le_trans reached (Nat.le_add_right _ _)
  case solid => exact Nat.lt_add_of_pos_right size
  case inside =>
    rw [made, length_encode, stop, ← List.append_assoc, bytes_append _ left]
    exact Nat.le_add_right _ _
  case text =>
    rw [made, stop, start, slice_encode, encode_ofList]
  case chars =>
    refine ⟨before ++ skipped, left, ?_, start, ?_⟩
    · rw [String.toList_ofList, List.append_assoc]
      exact whole.symm
    · rw [String.toList_ofList]
      exact stop
  case first =>
    obtain ⟨b, bs, own, -, solid⟩ := gap_first behind (gap_gap hg)
    have byte := getElem?_encode (before ++ skipped) (taken ++ left) 0
    rw [← made, ← start, Nat.add_zero, own] at byte
    exact ⟨b, byte, solid⟩
  case last =>
    obtain ⟨front, rfl⟩ := List.getLast?_eq_some_iff.mp (body_getLast hb)
    have byte := getElem?_encode (before ++ skipped ++ front) ('.' :: left) 0
    have chars : before ++ skipped ++ front ++ '.' :: left = before ++ skipped ++ (front ++ ['.'] ++ left) := by simp
    have period : bytes (before ++ skipped ++ (front ++ ['.'])) - 1 = bytes (before ++ skipped ++ front) := by
      rw [← List.append_assoc, bytes_append _ ['.']]
      rfl
    rw [chars, ← made, ← period, Nat.add_zero, ← stop] at byte
    exact byte
  case closing =>
    have rest : (utf8 script).drop (bytes (before ++ skipped ++ taken)) = encode left := by
      rw [made, ← List.append_assoc, encode_append _ left, ← length_encode, List.drop_left]
    rw [stop, rest, closes_encode none, closing]

/-- For every script and every offset the scan reads only bytes that are there and cuts only between characters. What it
finds is the next statement: it begins with what is not blank and ends with a period that something closes. -/
theorem scan_stays_within (script : String) (offset : Nat) :
    scan (utf8 script) offset = .ok ((firstFrom script offset).map .ofStatement) ∧
      ∀ s, firstFrom script offset = some s → Within script offset s :=
  ⟨scan_firstFrom script offset, fun _ found => firstFrom_within found⟩

theorem scan_within_character :
    firstFrom "é (* . *) \"\\é. \".(**)" 1 = some ⟨"\"\\é. \".", 11, 19⟩ ∧
      scan (utf8 "é (* . *) \"\\é. \".(**)") 1 = .ok (some (.ofStatement ⟨"\"\\é. \".", 11, 19⟩)) ∧
      Within "é (* . *) \"\\é. \".(**)" 1 ⟨"\"\\é. \".", 11, 19⟩ := by
  have found : firstFrom "é (* . *) \"\\é. \".(**)" 1 = some ⟨"\"\\é. \".", 11, 19⟩ := by decide +kernel
  obtain ⟨scanned, within⟩ := scan_stays_within "é (* . *) \"\\é. \".(**)" 1
  rw [found] at scanned
  exact ⟨found, scanned, within _ found⟩

end Scan
end Frontier
