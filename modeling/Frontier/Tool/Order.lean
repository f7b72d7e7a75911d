import Frontier.Tool.Basic
import Frontier.Tool.Decimal

/-!
# Tools that count and order lines
-/

namespace Frontier.Tool

/-! ## Counting -/

namespace Wc

/-- What was counted. -/
structure Counts where
  lines : Nat := 0
  words : Nat := 0
  bytes : Nat := 0
  longest : Nat := 0
  /-- Whether the place is inside a word. -/
  inWord : Bool := false
  /-- The width of the line so far. -/
  width : Nat := 0
  deriving Repr, Inhabited

/-- Counts a byte. -/
def Counts.add (s : Counts) (c : Char) : Counts :=
  let blank := Bytes.isSpace c
  let shown := ' ' ≤ c && c ≤ '~'
  let width := if c == '\n' || c == '\r' || c == '\x0c' then 0 else if c == '\t' then s.width + (8 - s.width % 8)
    else if shown then s.width + 1 else s.width
  { lines := if c == '\n' then s.lines + 1 else s.lines
    words := if !s.inWord && !blank && (shown || c.toNat > 127) then s.words + 1 else s.words
    bytes := s.bytes + 1
    longest := max s.longest width
    inWord := if blank then false else s.inWord || shown || c.toNat > 127
    width }

end Wc

/-- Counts lines, words and bytes. -/
def wc (i : Invocation) : Plan Nat := do
  let forms : List OptionForm := switches "clmLw" ++
    [{ letter := 'l', long := "lines" }, { letter := 'w', long := "words" }, { letter := 'c', long := "bytes" },
      { letter := 'm', long := "chars" }, { letter := 'L', long := "max-line-length" }]
  let (given, files) ← i.options forms 1 true
  let plain := given.isEmpty
  let shows (c : Char) : Bool := plain && ['l', 'w', 'c'].contains c || has given c
  let mut total : Wc.Counts := {}
  let mut rows : List (Wc.Counts × Option Bytes) := []
  let mut status := 0
  let mut allPlain := true
  for file in (if files.isEmpty then [['-']] else files) do
    match ← openInput file with
    | .error e =>
      i.complainOf file e
      status := 1
    | .ok d =>
      match ← Plan.ask (.factsOf d) with
      | .ok facts => if facts.kind != .plain then allPlain := false
      | .error _ => allPlain := false
      let (counts, fine) ← Plan.loop ({} : Wc.Counts) fun counts => do
        match ← Plan.ask (.read d 262144) with
        | .error e =>
          i.complainOf file e
          return .inr (counts, false)
        | .ok [] => return .inr (counts, true)
        | .ok bytes => return .inl (bytes.foldl Wc.Counts.add counts)
      if !fine then status := 1
      closeInput d
      rows := rows ++ [(counts, if files.isEmpty then none else some file)]
      total := { total with
        lines := total.lines + counts.lines, words := total.words + counts.words, bytes := total.bytes + counts.bytes
        longest := max total.longest counts.longest }
  if 1 < files.length then rows := rows ++ [(total, some (bytesOf "total"))]
  let columns := (['l', 'w', 'm', 'c', 'L'].filter shows).length
  let width := if columns == 1 && rows.length ≤ 1 then 1
    else max (Bytes.ofNat total.bytes).length (if allPlain then 1 else 7)
  let number (n : Nat) : Bytes := ({ width } : Layout).pad (Bytes.ofNat n)
  for (counts, name) in rows do
    let parts := (if shows 'l' then [counts.lines] else []) ++ (if shows 'w' then [counts.words] else []) ++
      (if shows 'm' then [counts.bytes] else []) ++ (if shows 'c' then [counts.bytes] else []) ++
      (if shows 'L' then [counts.longest] else [])
    let shown := Bytes.join [' '] (parts.map number)
    i.print (shown ++ (match name with
      | some name => ' ' :: name
      | none => []) ++ ['\n'])
  return status

/-- Numbers lines. -/
def nl (i : Invocation) : Plan Nat := do
  let forms : List OptionForm :=
    [{ letter := 'b', takes := .value }, { letter := 'w', takes := .value }, { letter := 's', takes := .value },
      { letter := 'v', takes := .value }, { letter := 'i', takes := .value }, { letter := 'n', takes := .value }]
  let (given, files) ← i.options forms 1 true
  let number (c : Char) (standard : Nat) : Nat := ((value? given c).bind Bytes.toNat?).getD standard
  let width := number 'w' 6
  let between := (value? given 's').getD ['\t']
  let style := (value? given 'b').getD ['t']
  let form := (value? given 'n').getD (bytesOf "rn")
  let shown (n : Nat) : Bytes :=
    let digits := Bytes.ofNat n
    if form == bytesOf "ln" then ({ left := true, width } : Layout).pad digits
    else if form == bytesOf "rz" then List.replicate (width - digits.length) '0' ++ digits
    else ({ width } : Layout).pad digits
  let ((p, _), status) ← i.overFiles files (({} : Printer), number 'v' 1) fun (p, n) file d =>
    i.overLines file '\n' { descriptor := d } (p, n) (fun (p, n) line _ _ => do
      let counts := style == ['a'] || style == ['t'] && !line.isEmpty
      let head := if counts then shown n ++ between else List.replicate (width + between.length) ' '
      return .inl (← p.put i (head ++ line ++ ['\n']), if counts then n + number 'i' 1 else n)) fun s fine =>
        return (s, if fine then 0 else 1)
  let _ ← p.flush i
  return status

/-! ## Ordering -/

namespace Sorting

/-- How two texts are compared. -/
structure Rules where
  numeric : Bool := false
  general : Bool := false
  human : Bool := false
  months : Bool := false
  versions : Bool := false
  foldsCase : Bool := false
  dictionary : Bool := false
  printable : Bool := false
  reversed : Bool := false
  blanks : Bool := false
  deriving DecidableEq, Repr, Inhabited

/-- A place in a line: the number of a field, and of a character in it. -/
structure Spot where
  field : Nat
  char : Nat
  blanks : Bool
  deriving Repr, Inhabited

/-- A part of lines by which they are ordered. -/
structure Key where
  first : Spot
  last : Option Spot
  rules : Rules
  deriving Repr, Inhabited

/-- The rules that a letter asks for. -/
def rule? (r : Rules) : Char → Option Rules
  | 'n' => some { r with numeric := true }
  | 'g' => some { r with general := true }
  | 'h' => some { r with human := true }
  | 'M' => some { r with months := true }
  | 'V' => some { r with versions := true }
  | 'f' => some { r with foldsCase := true }
  | 'd' => some { r with dictionary := true }
  | 'i' => some { r with printable := true }
  | 'r' => some { r with reversed := true }
  | 'b' => some { r with blanks := true }
  | _ => none

/-- Reads the number of a field or a character. -/
def count (what : String) (text : Bytes) : Except Bytes (Nat × Bytes) :=
  let digits := text.takeWhile Char.isDigit
  if digits.isEmpty then .error (bytesOf what ++ bytesOf ": invalid count at start of " ++ quotedName text)
  else .ok (Bytes.toNat digits, text.drop digits.length)

/-- Reads letters as long as they ask for rules. -/
def letterRules (r : Rules) : Bytes → Rules × Bytes
  | [] => (r, [])
  | c :: rest => match rule? r c with
    | some r => letterRules r rest
    | none => (r, c :: rest)

/-- Reads a key. -/
def key (text : Bytes) : Except Bytes Key := do
  let wrong {α : Type} (what : String) : Except Bytes α :=
    .error (bytesOf what ++ bytesOf ": invalid field specification " ++ quotedName text)
  let (field, rest) ← count "invalid number at field start" text
  if field == 0 then wrong "field number is zero"
  let (char, rest) ← match rest with
    | '.' :: more => do
      let (char, rest) ← count "invalid number after '.'" more
      if char == 0 then wrong "character offset is zero"
      pure (char, rest)
    | rest => pure (1, rest)
  let (rules, rest) := letterRules {} rest
  let first : Spot := { field, char, blanks := rules.blanks }
  match rest with
  | ',' :: more =>
    let (field, rest) ← count "invalid number after ','" more
    if field == 0 then wrong "field number is zero"
    let (char, rest) ← match rest with
      | '.' :: more => count "invalid number after '.'" more
      | rest => pure (0, rest)
    let (rules, rest) := letterRules { rules with blanks := false } rest
    if !rest.isEmpty then wrong "stray character in field spec"
    return ⟨first, some { field, char, blanks := rules.blanks }, { rules with blanks := false }⟩
  | [] => return ⟨first, none, { rules with blanks := false }⟩
  | _ => wrong "stray character in field spec"

/-- Where the fields of a line begin and end. -/
def fieldsOf (separator : Option Char) (line : Bytes) : List (Nat × Nat) :=
  let lengths := match separator with
    | some c => (Bytes.split c line).map List.length
    | none =>
      let isBlank (c : Char) : Bool := c == ' ' || c == '\t' || c == '\n'
      -- a field of this kind begins with the blanks before it
      (line.splitBy fun a b => !(isBlank b && !isBlank a)).map List.length
  let gap := if separator.isSome then 1 else 0
  (lengths.foldl (fun (seen, at_) n => ((at_, at_ + n) :: seen, at_ + n + gap)) (([] : List (Nat × Nat)), 0)).1.reverse

/-- A place after blanks. -/
def passBlanks (line : Bytes) (place : Nat) : Nat :=
  place + ((line.drop place).takeWhile fun c => c == ' ' || c == '\t').length

/-- The part of a line that a key stands for. -/
def part (separator : Option Char) (ignoresBlanks : Bool) (k : Key) (line : Bytes) : Bytes :=
  let fields := fieldsOf separator line
  let start (s : Spot) : Nat :=
    match fields[s.field - 1]? with
    | some (first, _) => min line.length ((if s.blanks || ignoresBlanks then passBlanks line first else first) + (s.char - 1))
    | none => line.length
  let stop := match k.last with
    | none => line.length
    | some s =>
      if s.char == 0 then ((fields[s.field - 1]?).map (·.2)).getD line.length
      else match fields[s.field - 1]? with
        | some (first, _) => min line.length ((if s.blanks then passBlanks line first else first) + s.char)
        | none => line.length
  (line.take stop).drop (start k.first)

/-- Reads a number at the head of a text: its sign, its digits, and those after its point. -/
def numeral (text : Bytes) : Bool × Bytes × Bytes × Bytes :=
  let text := text.dropWhile fun c => c == ' ' || c == '\t' || c == '\n'
  let (negative, text) := match text with
    | '-' :: rest => (true, rest)
    | text => (false, text)
  let digits := text.takeWhile Char.isDigit
  let rest := text.drop digits.length
  match rest with
  | '.' :: rest =>
    let places := rest.takeWhile Char.isDigit
    (negative, digits, places, rest.drop places.length)
  | rest => (negative, digits, [], rest)

/-- Compares numbers that are written at the head of texts. -/
def compareNumbers (a b : Bytes) : Ordering :=
  let value (text : Bytes) (places : Nat) : Int :=
    let (negative, digits, more, _) := numeral text
    let n : Nat := Bytes.toNat (digits ++ more ++ List.replicate (places - more.length) '0')
    if negative then -(n : Int) else n
  let places := max (numeral a).2.2.1.length (numeral b).2.2.1.length
  compare (value a places) (value b places)

/-- How large the unit after a number is. -/
def unit (text : Bytes) : Nat :=
  let (_, digits, places, rest) := numeral text
  if (digits ++ places).all (· == '0') then 0
  else match rest with
    | c :: _ => match "KMGTPEZY".toList.findIdx? (· == (if c == 'k' then 'K' else c)) with
      | some n => n + 1
      | none => 0
    | [] => 0

/-- Compares quantities in any form. -/
def compareQuantities (a b : Bytes) : Ordering :=
  let rank (text : Bytes) : Nat × Int × Int :=
    match Quantity.read Quantity.extended text with
    | none => (0, 0, 1)
    | some (.notANumber _, _, _) => (1, 0, 1)
    | some (.infinite negative, _, _) => if negative then (2, 0, 1) else (4, 0, 1)
    | some (.finite negative n d, _, _) => (3, if negative then -(n : Int) else n, d)
  let (ra, na, da) := rank a
  let (rb, nb, db) := rank b
  (compare ra rb).then (compare (na * db) (nb * da))

/-- The number of a month. -/
def month (text : Bytes) : Nat :=
  let text := ((text.dropWhile Bytes.isSpace).take 3).map Char.toUpper
  match (["JAN", "FEB", "MAR", "APR", "MAY", "JUN", "JUL", "AUG", "SEP", "OCT", "NOV", "DEC"].findIdx? fun m => bytesOf m == text) with
  | some n => n + 1
  | none => 0

/-- Compares versions: runs of digits as numbers, the rest by characters. Every step of `fuel` passes a run. -/
def compareVersions : (fuel : Nat) → Bytes → Bytes → Ordering
  | 0, _, _ => .eq
  | fuel + 1, a, b =>
    if a.isEmpty && b.isEmpty then .eq
    else
      let ta := a.takeWhile fun c => !c.isDigit
      let tb := b.takeWhile fun c => !c.isDigit
      let order (c : Char) : Nat := if c == '~' then 0 else if c.isAlpha then c.toNat + 1 else c.toNat + 257
      let texts (x y : Bytes) : Ordering :=
        (List.range (max x.length y.length)).foldl (fun o n =>
          o.then (compare ((x[n]?.map order).getD 1) ((y[n]?.map order).getD 1))) .eq
      let ra := a.drop ta.length
      let rb := b.drop tb.length
      let na := ra.takeWhile Char.isDigit
      let nb := rb.takeWhile Char.isDigit
      ((texts ta tb).then (compare (Bytes.toNat na) (Bytes.toNat nb))).then
        (compareVersions fuel (ra.drop na.length) (rb.drop nb.length))

/-- Compares texts by rules, whichever way round. -/
def compareBy (r : Rules) (a b : Bytes) : Ordering :=
  if r.numeric then compareNumbers a b
  else if r.human then
    let negative (text : Bytes) : Bool := (numeral text).1
    let units := compare (unit a) (unit b)
    let byUnit := if negative a && negative b then units.swap else if negative a == negative b then units else .eq
    byUnit.then (compareNumbers a b)
  else if r.general then compareQuantities a b
  else if r.months then compare (month a) (month b)
  else if r.versions then compareVersions (a.length + b.length + 1) a b
  else
    let kept (text : Bytes) : Bytes :=
      let text := if r.dictionary then text.filter fun c => c.isAlphanum || c == ' ' || c == '\t'
        else if r.printable then text.filter fun c => ' ' ≤ c && c ≤ '~' else text
      if r.foldsCase then text.map Char.toUpper else text
    Bytes.compare (kept a) (kept b)

/-- How lines are ordered. -/
structure Order where
  keys : List Key
  rules : Rules
  separator : Option Char
  stable : Bool
  unique : Bool
  deriving Repr, Inhabited

/-- Compares lines by their keys. -/
def Order.byKeys (o : Order) (a b : Bytes) : Ordering :=
  o.keys.foldl (fun seen k =>
    match seen with
    | .eq =>
      let plain := k.rules == {} && !k.first.blanks && !(k.last.any (·.blanks))
      let rules := if plain then o.rules else k.rules
      let blanks := plain && o.rules.blanks
      let result := compareBy rules (part o.separator blanks k a) (part o.separator blanks k b)
      if rules.reversed then result.swap else result
    | seen => seen) .eq

/-- Compares lines. -/
def Order.compare (o : Order) (a b : Bytes) : Ordering :=
  let main := if o.keys.isEmpty then
      let cut (text : Bytes) : Bytes := if o.rules.blanks then text.dropWhile fun c => c == ' ' || c == '\t' else text
      let result := compareBy o.rules (cut a) (cut b)
      if o.rules.reversed then result.swap else result
    else o.byKeys a b
  if o.stable || o.unique then main
  else
    let whole := Bytes.compare a b
    main.then (if o.rules.reversed then whole.swap else whole)

end Sorting

/-- Orders lines. -/
def sort (i : Invocation) : Plan Nat := do
  let forms : List OptionForm := switches "bdfghiMnrRVcCmsuz" ++
    [{ letter := 'k', takes := .value, long := "key" }, { letter := 't', takes := .value, long := "field-separator" },
      { letter := 'o', takes := .value, long := "output" }, { letter := 'S', takes := .value }, { letter := 'T', takes := .value },
      { letter := 'n', long := "numeric-sort" }, { letter := 'r', long := "reverse" }, { letter := 'u', long := "unique" },
      { letter := 'f', long := "ignore-case" }, { letter := 'b', long := "ignore-leading-blanks" },
      { letter := 's', long := "stable" }, { letter := 'c', takes := .nothing, long := "check" },
      { letter := 'g', long := "general-numeric-sort" }, { letter := 'h', long := "human-numeric-sort" },
      { letter := 'V', long := "version-sort" }, { letter := 'M', long := "month-sort" },
      { letter := 'd', long := "dictionary-order" }, { letter := 'z', long := "zero-terminated" }, { letter := 'm', long := "merge" }]
  let (given, files) ← i.options forms 2 true
  let separator ← match value? given 't' with
    | none => pure none
    | some [c] => pure (some c)
    | some ['\\', '0'] => pure (some '\x00')
    | some [] => do
      i.complain (bytesOf "empty tab")
      Plan.exit 2
    | some text => do
      i.complain (bytesOf "multi-character tab " ++ quotedName text)
      Plan.exit 2
  let mut keys : List Sorting.Key := []
  for (c, value) in given do
    if c == 'k' then
      match Sorting.key (value.getD []) with
      | .ok k => keys := keys ++ [k]
      | .error e =>
        i.complain e
        Plan.exit 2
  let rules := given.foldl (fun r (c, _) => (Sorting.rule? r c).getD r) ({} : Sorting.Rules)
  let order : Sorting.Order := { keys, rules, separator, stable := has given 's', unique := has given 'u' }
  let ending := if has given 'z' then '\x00' else '\n'
  let mut lines : List Bytes := []
  for file in (if files.isEmpty then [['-']] else files) do
    match ← openInput file with
    | .error e =>
      i.complain (bytesOf "cannot read: " ++ shownName file ++ bytesOf ": " ++ e.message)
      Plan.exit 2
    | .ok d =>
      match ← readAll d with
      | .error e =>
        i.complain (bytesOf "read failed: " ++ shownName file ++ bytesOf ": " ++ e.message)
        Plan.exit 2
      | .ok all => lines := lines ++ Bytes.lines ending all
      closeInput d
  let comesFirst (a b : Bytes) : Bool := order.compare a b != .gt
  if has given 'c' || has given 'C' then
    let wrong := ((lines.zip lines.tail).mapIdx fun n p => (n, p)).find? fun (_, a, b) =>
      order.compare a b == .gt || order.unique && order.compare a b == .eq
    match wrong with
    | none => return 0
    | some (n, _, b) =>
      if !has given 'C' then
        i.complain ((files.headD ['-']) ++ ':' :: Bytes.ofNat (n + 2) ++ bytesOf ": disorder: " ++ b)
      return 1
  let sorted := lines.mergeSort comesFirst
  let kept := if order.unique then (sorted.foldl (fun seen line => match seen with
      | last :: _ => if order.compare last line == .eq then seen else line :: seen
      | [] => [line]) ([] : List Bytes)).reverse else sorted
  let text := kept.flatMap (· ++ [ending])
  match value? given 'o' with
  | none => i.print text
  | some name =>
    match ← Plan.ask (.openFile name { writes := true, creates := true, truncates := true }) with
    | .error e =>
      i.complain (bytesOf "open failed: " ++ shownName name ++ bytesOf ": " ++ e.message)
      Plan.exit 2
    | .ok d =>
      let _ ← writeAll d text
      closeInput d
  return 0

/-- Drops lines that repeat the one before them. -/
def uniq (i : Invocation) : Plan Nat := do
  let forms : List OptionForm := switches "cduiDz" ++
    [{ letter := 'f', takes := .value, long := "skip-fields" }, { letter := 's', takes := .value, long := "skip-chars" },
      { letter := 'w', takes := .value, long := "check-chars" }, { letter := 'c', long := "count" }, { letter := 'd', long := "repeated" },
      { letter := 'u', long := "unique" }, { letter := 'i', long := "ignore-case" }]
  let (given, files) ← i.options forms 1 true
  let number (c : Char) : Option Nat := (value? given c).bind Bytes.toNat?
  let passFields := fun (text : Bytes) => (List.range ((number 'f').getD 0)).foldl (fun text _ =>
    (text.dropWhile Bytes.isSpace).dropWhile fun c => !Bytes.isSpace c) text
  let compared (line : Bytes) : Bytes :=
    let text := (passFields line).drop ((number 's').getD 0)
    let text := match number 'w' with
      | some n => text.take n
      | none => text
    if has given 'i' then text.map Char.toLower else text
  let input ← match files.head? with
    | none => pure 0
    | some file =>
      match ← openInput file with
      | .ok d => pure d
      | .error e => do
        i.complainOf file e
        Plan.exit 1
  let output ← match files[1]? with
    | some file =>
      match ← Plan.ask (.openFile file { writes := true, creates := true, truncates := true }) with
      | .ok d => do
        let _ ← Plan.ask (.replace d 1)
        pure d
      | .error e => do
        i.complainOf file e
        Plan.exit 1
    | none => pure 1
  let show? (p : Printer) (line : Bytes) (count : Nat) : Plan Printer :=
    let wanted := if has given 'd' && has given 'u' then false
      else if has given 'd' then 1 < count else if has given 'u' then count == 1 else true
    let head := if has given 'c' then ({ width := 7 } : Layout).pad (Bytes.ofNat count) ++ [' '] else []
    if !wanted then pure p
    else if has given 'D' then if count < 2 then pure p else p.put i ((List.replicate count (line ++ ['\n'])).flatten)
    else p.put i (head ++ line ++ ['\n'])
  let (p, status) ← i.overLines (files.headD ['-']) '\n' { descriptor := input } (({} : Printer), (none : Option (Bytes × Nat)))
    (fun (p, last) line _ _ => do
      match last with
      | none => return .inl (p, some (line, 1))
      | some (first, count) =>
        if compared first == compared line then return .inl (p, some (first, count + 1))
        else return .inl (← show? p first count, some (line, 1))) fun (p, last) fine => do
      let p ← match last with
        | some (line, count) => show? p line count
        | none => pure p
      return (p, if fine then 0 else 1)
  let _ ← p.flush i
  if output != 1 then closeInput output
  return status

end Frontier.Tool
