import Frontier.Tool.Basic

/-!
# Tools that take lines apart
-/

namespace Frontier.Tool

/-! ## Characters -/

namespace Tr

/-- An element of a set of characters. -/
inductive Element where
  | chars (cs : List Char)
  /-- A class; its name matters where case is changed. -/
  | charClass (name : String) (cs : List Char)
  /-- A character that fills up the set, or comes so many times. -/
  | repeated (c : Char) (count : Nat)
  deriving Repr, Inhabited

/-- The bytes in some ranges. -/
def bytesIn (ranges : List (Nat × Nat)) : List Char :=
  ranges.flatMap fun (low, high) => (List.range (high + 1 - low)).map fun n => Char.ofNat (low + n)

/-- The characters of a class. -/
def classOf? : String → Option (List Char)
  | "alnum" => some (bytesIn [(48, 57), (65, 90), (97, 122)])
  | "alpha" => some (bytesIn [(65, 90), (97, 122)])
  | "blank" => some ['\t', ' ']
  | "cntrl" => some (bytesIn [(0, 31), (127, 127)])
  | "digit" => some (bytesIn [(48, 57)])
  | "graph" => some (bytesIn [(33, 126)])
  | "lower" => some (bytesIn [(97, 122)])
  | "print" => some (bytesIn [(32, 126)])
  | "punct" => some (bytesIn [(33, 47), (58, 64), (91, 96), (123, 126)])
  | "space" => some (bytesIn [(9, 13), (32, 32)])
  | "upper" => some (bytesIn [(65, 90)])
  | "xdigit" => some (bytesIn [(48, 57), (65, 70), (97, 102)])
  | _ => none

/-- Reads backslashes: each character, and whether it was quoted. Every step of `fuel` reads one or more. -/
def unescaped : (fuel : Nat) → Bytes → List (Char × Bool)
  | 0, _ | _ + 1, [] => []
  | fuel + 1, '\\' :: rest =>
    let digits := (rest.take 3).takeWhile fun c => Bytes.digitValue c < 8
    let value := (Bytes.readDigits 8 0 digits).1
    if !digits.isEmpty then
      if value < 256 then (Char.ofNat value, true) :: unescaped fuel (rest.drop digits.length)
      else (Char.ofNat (value / 8), true) :: unescaped fuel (rest.drop 2)
    else match rest with
      | [] => [('\\', false)]
      | c :: rest =>
        let d := match c with
          | 'a' => '\x07'
          | 'b' => '\x08'
          | 'f' => '\x0c'
          | 'n' => '\n'
          | 'r' => '\r'
          | 't' => '\t'
          | 'v' => '\x0b'
          | c => c
        (d, true) :: unescaped fuel rest
  | fuel + 1, c :: rest => (c, false) :: unescaped fuel rest

/-- Splits at a sign before a closing bracket. -/
def untilSign (sign : Char) : List (Char × Bool) → Option (List Char × List (Char × Bool))
  | [] | [_] => none
  | a :: b :: rest =>
    if a == (sign, false) && b == (']', false) then some ([], rest)
    else (untilSign sign (b :: rest)).map fun (cs, rest) => (a.1 :: cs, rest)

/-- Reads a set. Every step of `fuel` reads a character or more. -/
def elements : (fuel : Nat) → List (Char × Bool) → Except Bytes (List Element)
  | 0, _ | _ + 1, [] => .ok []
  | fuel + 1, text => do
    let plain : Except Bytes (List Element) := match text with
      | (low, _) :: ('-', false) :: (high, _) :: rest => do
        if high < low then
          throw (bytesOf "range-endpoints of '" ++ low :: '-' :: high :: bytesOf "' are in reverse collating sequence order")
        return .chars (bytesIn [(low.toNat, high.toNat)]) :: (← elements fuel rest)
      | (c, _) :: rest => do return .chars [c] :: (← elements fuel rest)
      | [] => return []
    match text with
    | ('[', false) :: (':', false) :: rest =>
      match untilSign ':' rest with
      | some (name, rest) =>
        match classOf? (String.ofList name) with
        | some cs => return .charClass (String.ofList name) cs :: (← elements fuel rest)
        | none => throw (bytesOf "invalid character class '" ++ name ++ ['\''])
      | none => plain
    | ('[', false) :: ('=', false) :: rest =>
      match untilSign '=' rest with
      | some ([c], rest) => return .chars [c] :: (← elements fuel rest)
      | _ => plain
    | ('[', false) :: (c, _) :: ('*', false) :: rest =>
      let digits := (rest.takeWhile fun p => p.1.isDigit).map (·.1)
      match rest.drop digits.length with
      | (']', false) :: rest =>
        let count := if digits.head? == some '0' then (Bytes.readDigits 8 0 digits).1 else Bytes.toNat digits
        return .repeated c count :: (← elements fuel rest)
      | _ => plain
    | _ => plain

/-- The characters of a set; one that fills it up comes often enough for a length. -/
def expand (length : Nat) (set : List Element) : List Char :=
  let fixed := (set.map fun
    | .chars cs | .charClass _ cs => cs.length
    | .repeated _ n => n).foldl (· + ·) 0
  set.flatMap fun
    | .chars cs | .charClass _ cs => cs
    | .repeated c 0 => List.replicate (length - fixed) c
    | .repeated c n => List.replicate n c

/-- The pairs of a translation. -/
def pairs (set1 set2 : List Element) (complement truncates : Bool) : List (Char × Char) :=
  let sources := expand 0 set1
  let sources := if complement then (bytesIn [(0, 255)]).filter fun c => !sources.contains c else sources
  match complement, set1, set2 with
  | false, [.charClass "lower" _], [.charClass "upper" _] => (bytesIn [(97, 122)]).map fun c => (c, c.toUpper)
  | false, [.charClass "upper" _], [.charClass "lower" _] => (bytesIn [(65, 90)]).map fun c => (c, c.toLower)
  | _, _, _ =>
    let targets := expand sources.length set2
    let sources := if truncates then sources.take targets.length else sources
    let last := targets.getLast?.getD ' '
    -- of two pairs for one character the later one counts
    (sources.mapIdx fun n c => (c, targets[n]?.getD last)).reverse

/-- A table for all bytes. -/
def tableOf {α : Type} (f : Char → α) : Array α := ((List.range 256).map fun n => f (Char.ofNat n)).toArray

/-- Drops characters that repeat the one before them. -/
def squeeze (isSqueezed : Char → Bool) : Option Char → Bytes → Bytes
  | _, [] => []
  | last, c :: rest =>
    if last == some c && isSqueezed c then squeeze isSqueezed last rest else c :: squeeze isSqueezed (some c) rest

end Tr

/-- Translates, deletes or squeezes characters. -/
def tr (i : Invocation) : Plan Nat := do
  let forms : List OptionForm := switches "cCdst" ++
    [{ letter := 'c', long := "complement" }, { letter := 'd', long := "delete" }, { letter := 's', long := "squeeze-repeats" },
      { letter := 't', long := "truncate-set1" }]
  let (given, args) ← i.options forms 1 false
  let complement := has given 'c' || has given 'C'
  let deletes := has given 'd'
  let squeezes := has given 's'
  let needed := if deletes == squeezes then 2 else 1
  match args with
  | [] => i.misused (bytesOf "missing operand") 1
  | [arg] =>
    if needed == 2 then
      i.complain (bytesOf "missing operand after " ++ quotedName arg)
      say (bytesOf (if squeezes then "Two strings must be given when both deleting and squeezing repeats."
        else "Two strings must be given when translating."))
      say (bytesOf "Try '" ++ i.name ++ bytesOf " --help' for more information.")
      Plan.exit 1
  | _ :: second :: more =>
    let extra := if needed == 1 && deletes then some second else more.head?
    if let some arg := extra then
      i.complain (bytesOf "extra operand " ++ quotedName arg)
      if needed == 1 && deletes && more.isEmpty then
        say (bytesOf "Only one string may be given when deleting without squeezing repeats.")
      say (bytesOf "Try '" ++ i.name ++ bytesOf " --help' for more information.")
      Plan.exit 1
  let sets := args.map fun arg => Tr.elements (arg.length + 1) (Tr.unescaped (arg.length + 1) arg)
  for set in sets do
    if let .error e := set then
      i.complain e
      Plan.exit 1
  let sets := sets.filterMap Except.toOption
  let set1 := sets.headD []
  let set2 := sets[1]?.getD []
  if !deletes && 1 < args.length && (Tr.expand 1 set2).isEmpty && !has given 't' then
    i.complain (bytesOf "when not truncating set1, string2 must be non-empty")
    Plan.exit 1
  let members := Tr.expand 0 set1
  let inFirst := Tr.tableOf fun c => members.contains c != complement
  let translation := if deletes || args.length < 2 then [] else Tr.pairs set1 set2 complement (has given 't')
  let table := Tr.tableOf fun c => (translation.lookup c).getD c
  let squeezed := if deletes || 1 < args.length then Tr.expand members.length set2 else []
  let isSqueezed := Tr.tableOf fun c =>
    if deletes || 1 < args.length then squeezed.contains c else members.contains c != complement
  Plan.loop (({} : Printer), (none : Option Char)) fun (p, last) => do
    match ← Plan.ask (.read 0 8192) with
    | .error e =>
      i.complain (bytesOf "read error: " ++ e.message)
      return .inr 1
    | .ok [] =>
      let _ ← p.flush i
      return .inr 0
    | .ok bytes =>
      let kept := if deletes then bytes.filter fun c => !(inFirst[c.toNat]?.getD false) else bytes.map fun c => table[c.toNat]?.getD c
      let shown := if squeezes then Tr.squeeze (fun c => isSqueezed[c.toNat]?.getD false) last kept else kept
      return .inl (← p.put i shown, shown.getLast?.or last)

/-! ## Columns -/

namespace Cut

/-- What is wrong with a list of ranges. -/
inductive Flaw where
  | zero
  | endless
  | decreasing
  | twoDashes
  | stray (text : Bytes)
  deriving Repr, Inhabited

/-- What is said about a list of ranges, of fields or of places. -/
def Flaw.message (ofFields : Bool) : Flaw → Bytes
  | zero => bytesOf ((if ofFields then "fields" else "byte/character positions") ++ " are numbered from 1")
  | endless => bytesOf "invalid range with no endpoint: -"
  | decreasing => bytesOf "invalid decreasing range"
  | twoDashes => bytesOf (if ofFields then "invalid field range" else "invalid byte or character range")
  | stray text => bytesOf (if ofFields then "invalid field value " else "invalid byte/character position ") ++ quotedName text

/-- Reads a list of ranges; an end of none is the end of the line. Every step of `fuel` reads a range. -/
def ranges : (fuel : Nat) → Bytes → Except Flaw (List (Nat × Option Nat))
  | 0, _ => .ok []
  | fuel + 1, text => do
    let low := text.takeWhile Char.isDigit
    let rest := text.drop low.length
    let (range, rest) ← match rest with
      | '-' :: more => do
        if !low.isEmpty && Bytes.toNat low == 0 then throw .zero
        let first := if low.isEmpty then 1 else Bytes.toNat low
        let high := more.takeWhile Char.isDigit
        let rest := more.drop high.length
        if rest.head? == some '-' then throw .twoDashes
        if let some c := rest.head? then
          if c != ',' && c != ' ' && c != '\t' then throw (.stray rest)
        if low.isEmpty && high.isEmpty then throw .endless
        if !high.isEmpty && Bytes.toNat high < first then throw .decreasing
        pure ((first, if high.isEmpty then none else some (Bytes.toNat high)), rest)
      | rest => do
        if let some c := rest.head? then
          if c != ',' && c != ' ' && c != '\t' then throw (.stray rest)
        if Bytes.toNat low == 0 then throw .zero
        pure ((Bytes.toNat low, some (Bytes.toNat low)), rest)
    match rest with
    | [] => return [range]
    | _ :: rest => return range :: (← ranges fuel rest)

/-- Whether a place is in some ranges. -/
def isIn (ranges : List (Nat × Option Nat)) (n : Nat) : Bool :=
  ranges.any fun (low, high) => low ≤ n && high.all (n ≤ ·)

end Cut

/-- Prints parts of lines. -/
def cut (i : Invocation) : Plan Nat := do
  let forms : List OptionForm := switches "nsz" ++
    [{ letter := 'b', takes := .value, long := "bytes" }, { letter := 'c', takes := .value, long := "characters" },
      { letter := 'f', takes := .value, long := "fields" }, { letter := 'd', takes := .value, long := "delimiter" },
      { letter := 's', long := "only-delimited" }, { letter := '\x01', long := "complement" },
      { letter := '\x02', takes := .value, long := "output-delimiter" }, { letter := 'z', long := "zero-terminated" }]
  let (given, files) ← i.options forms 1 true
  let lists := given.filter fun p => p.1 == 'b' || p.1 == 'c' || p.1 == 'f'
  let byFields := lists.any (·.1 == 'f')
  match lists with
  | [] => i.misused (bytesOf "you must specify a list of bytes, characters, or fields") 1
  | [_] => pure ()
  | _ => i.misused (bytesOf "only one list may be specified") 1
  let delimiter ← match value? given 'd' with
    | none => pure '\t'
    | some [c] => pure c
    | some [] => pure '\x00'
    | some _ => i.misused (bytesOf "the delimiter must be a single character") 1
  if !byFields && has given 'd' then
    i.misused (bytesOf "an input delimiter may be specified only when operating on fields") 1
  if !byFields && has given 's' then
    i.misused (bytesOf "suppressing non-delimited lines makes sense\n\tonly when operating on fields") 1
  let text := (lists.head?.bind (·.2)).getD []
  let ranges ← match Cut.ranges (text.length + 1) text with
    | .error flaw => i.misused (flaw.message byFields) 1
    | .ok ranges => pure ranges
  let chosen (n : Nat) : Bool := Cut.isIn ranges n != has given '\x01'
  let between := value? given '\x02'
  let separator := if has given 'z' then '\x00' else '\n'
  let pick (line : Bytes) : Option Bytes :=
    if byFields then
      let parts := Bytes.split delimiter line
      if parts.length == 1 then (if has given 's' then none else some line)
      else
        let kept := (parts.mapIdx fun n part => (n + 1, part)).filter fun p => chosen p.1
        some (Bytes.join (between.getD [delimiter]) (kept.map (·.2)))
    else
      let kept := (line.mapIdx fun n c => (n + 1, c)).filter fun p => chosen p.1
      match between with
      | none => some (kept.map (·.2))
      | some between =>
        let runs := kept.splitBy fun a b => a.1 + 1 == b.1
        some (Bytes.join between (runs.map fun run => run.map (·.2)))
  let (p, status) ← i.overFiles files ({} : Printer) fun p file d =>
    i.overLines file separator { descriptor := d } p (fun p line _ _ => do
      match pick line with
      | some shown => return .inl (← p.put i (shown ++ [separator]))
      | none => return .inl p) fun p fine => return (p, if fine then 0 else 1)
  let _ ← p.flush i
  return status

/-- Puts lines of files beside each other. -/
def paste (i : Invocation) : Plan Nat := do
  let forms : List OptionForm := [{ letter := 's', long := "serial" }, { letter := 'd', takes := .value, long := "delimiters" }]
  let (given, files) ← i.options forms 1 true
  let delimiters := match value? given 'd' with
    | none => ['\t']
    | some text =>
      let cs := (Tr.unescaped (text.length + 1) text).map fun (c, quoted) => if quoted && c == '0' then '\x00' else c
      if cs.isEmpty then ['\x00'] else cs
  let between (n : Nat) : Bytes := (delimiters[n % delimiters.length]?.filter (· != '\x00')).toList
  let joined (parts : List Bytes) : Bytes :=
    (parts.mapIdx fun n part => if n == 0 then part else between (n - 1) ++ part).flatten ++ ['\n']
  let mut readers : List (Bytes × Reader) := []
  let mut status := 0
  for file in (if files.isEmpty then [['-']] else files) do
    match ← openInput file with
    | .ok d => readers := readers ++ [(file, { descriptor := d })]
    | .error e =>
      i.complainOf file e
      status := 1
      if !has given 's' then Plan.exit 1
  if has given 's' then
    let p ← readers.foldlM (fun (p : Printer) (_, r) => do
      match ← readAll r.descriptor with
      | .ok all => p.put i (joined (Bytes.lines '\n' all))
      | .error _ => return p) {}
    let _ ← p.flush i
    return status
  else
    -- one input may be read through several places, so that what was read is kept by descriptor
    Plan.loop (({} : Printer), readers.map (fun p => (p.2.descriptor, p.2)), readers.map (·.2.descriptor)) fun (p, table, ids) => do
      let (table, parts) ← ids.foldlM (fun (table, parts) id => do
        match (table.lookup id : Option Reader) with
        | none => return (table, parts ++ [none])
        | some r =>
          match ← r.line '\n' with
          | (.ok (some (line, _)), r) => return ((id, r) :: table.filter (·.1 != id), parts ++ [some line])
          | (_, r) => return ((id, r) :: table.filter (·.1 != id), parts ++ [none])) (table, ([] : List (Option Bytes)))
      if parts.all Option.isNone then
        let _ ← p.flush i
        return .inr status
      return .inl (← p.put i (joined (parts.map (·.getD []))), table, ids)

/-- Cuts lines that are too long. -/
def fold (i : Invocation) : Plan Nat := do
  let forms : List OptionForm := switches "bs" ++ [{ letter := 'w', takes := .value, long := "width" }, { letter := 's', long := "spaces" }]
  let (given, files) ← i.options forms 1 true
  let width := ((value? given 'w').bind Bytes.toNat?).getD 80
  let rec cutLine : (fuel : Nat) → Bytes → List Bytes
    | 0, line => [line]
    | fuel + 1, line =>
      if line.length ≤ width || width == 0 then [line]
      else
        let head := line.take width
        let blank := (head.reverse.dropWhile (· != ' ')).reverse
        let head := if has given 's' && !blank.isEmpty then blank else head
        head :: cutLine fuel (line.drop head.length)
  let (p, status) ← i.overFiles files ({} : Printer) fun p file d =>
    i.overLines file '\n' { descriptor := d } p (fun p line whole _ => do
      let shown := Bytes.join ['\n'] (cutLine (line.length + 1) line)
      return .inl (← p.put i (if whole then shown ++ ['\n'] else shown))) fun p fine => return (p, if fine then 0 else 1)
  let _ ← p.flush i
  return status

end Frontier.Tool
