import Frontier.Regex.Parser
import Frontier.Tool.Basic
import Frontier.Tool.Decimal
import Frontier.Tool.Simple

/-!
# Tools for numbers and formats
-/

namespace Frontier.Tool

/-! ## Sequences -/

namespace Seq

/-- A number with the digits after its point. -/
structure Operand where
  /-- The number times ten as often as it has places. -/
  scaled : Int
  places : Nat
  /-- How many characters it was written with, its point and places apart. -/
  width : Nat
  deriving Repr, Inhabited

/-- Reads a number: decimal, perhaps with an exponent. -/
def operand? (text : Bytes) : Option Operand :=
  let text := text.dropWhile Bytes.isSpace
  let (negative, digits) := match text with
    | '-' :: rest => (true, rest)
    | '+' :: rest => (false, rest)
    | rest => (false, rest)
  let hexadecimal : Option Nat := match digits with
    | '0' :: x :: rest =>
      if (x == 'x' || x == 'X') && !rest.isEmpty && rest.all (fun c => Bytes.digitValue c < 16) then
        some (Bytes.readDigits 16 0 rest).1
      else none
    | _ => none
  if let some n := hexadecimal then
    let n : Int := if negative then -(n : Int) else n
    some { scaled := n, places := 0, width := text.length }
  else
  let whole := digits.takeWhile Char.isDigit
  let rest := digits.drop whole.length
  let (places, rest) := match rest with
    | '.' :: more => (more.takeWhile Char.isDigit, more.dropWhile Char.isDigit)
    | rest => ([], rest)
  if whole.isEmpty && places.isEmpty then none
  else
    let exponent : Option Int := match rest with
      | [] => some 0
      | e :: more =>
        if e != 'e' && e != 'E' then none
        else match more with
          | '-' :: digits => (Bytes.toNat? digits).map fun n => -(n : Int)
          | '+' :: digits => (Bytes.toNat? digits).map fun n => (n : Int)
          | digits => (Bytes.toNat? digits).map fun n => (n : Int)
    exponent.bind fun e =>
      if e.natAbs > 400 then none
      else
        let n : Nat := Bytes.toNat (whole ++ places)
        let left : Int := (places.length : Int) - e
        let (n, left) := if left < 0 then (n * Quantity.tens (-left).toNat, 0) else (n, left.toNat)
        some {
          scaled := if negative then -(n : Int) else n, places := left
          width := max whole.length 1 + (if negative then 1 else 0) }

/-- A number at another scale. -/
def Operand.at (o : Operand) (places : Nat) : Int := o.scaled * (Quantity.tens (places - o.places) : Nat)

/-- A number as text, with zeros before it up to a width. -/
def shown (places width : Nat) (n : Int) : Bytes :=
  let text := Quantity.pointed n.natAbs places false
  let sign : Bytes := if n < 0 then ['-'] else []
  sign ++ List.replicate (width - text.length - sign.length) '0' ++ text

/-- A format: what stands before and after its one conversion. -/
structure Format where
  before : Bytes
  layout : Layout
  form : Char
  after : Bytes
  deriving Repr, Inhabited

/-- Percent signs that stand for themselves. -/
def plainText : Bytes → Option Bytes
  | [] => some []
  | '%' :: '%' :: rest => (plainText rest).map ('%' :: ·)
  | '%' :: _ => none
  | c :: rest => (plainText rest).map (c :: ·)

/-- Splits a format before its conversion. -/
def untilConversion : Bytes → Option (Bytes × Bytes)
  | [] => none
  | '%' :: '%' :: rest => (untilConversion rest).map fun (before, after) => ('%' :: before, after)
  | '%' :: rest => some ([], rest)
  | c :: rest => (untilConversion rest).map fun (before, after) => (c :: before, after)

/-- Reads a format. -/
def format (text : Bytes) : Except Bytes Format :=
  match untilConversion text with
  | none => .error (bytesOf "format " ++ quotedName text ++ bytesOf " has no % directive")
  | some (before, rest) =>
    let (layout, rest) := Layout.readFlags {} rest
    let width := rest.takeWhile Char.isDigit
    let rest := rest.drop width.length
    let (precision, rest) := match rest with
      | '.' :: more => (some (Bytes.toNat (more.takeWhile Char.isDigit)), more.dropWhile Char.isDigit)
      | rest => (none, rest)
    match rest with
    | [] => .error (bytesOf "format " ++ quotedName text ++ bytesOf " ends in %")
    | form :: after =>
      if !"aefgAEFG".toList.contains form then
        .error (bytesOf "format " ++ quotedName text ++ bytesOf " has unknown %" ++ form :: bytesOf " directive")
      else match plainText after with
        | none => .error (bytesOf "format " ++ quotedName text ++ bytesOf " has too many % directives")
        | some after => .ok ⟨before, { layout with width := Bytes.toNat width, precision }, form, after⟩

end Seq

/-- Prints numbers from one to another. -/
def seq (i : Invocation) : Plan Nat := do
  let forms : List OptionForm :=
    [{ letter := 'f', takes := .value, long := "format" }, { letter := 's', takes := .value, long := "separator" },
      { letter := 'w', long := "equal-width" }]
  -- negative numbers are no options
  let isNumber (arg : Bytes) : Bool := match arg with
    | '-' :: c :: _ => c.isDigit || c == '.'
    | _ => false
  let cutAt := i.args.takeWhile fun arg => !isNumber arg
  let (given, args) ← ({ i with args := cutAt } : Invocation).options forms 1 false
  let args := args ++ i.args.drop cutAt.length
  match args with
  | [] => i.misused (bytesOf "missing operand") 1
  | [_] | [_, _] | [_, _, _] => pure ()
  | _ :: _ :: _ :: extra :: _ => i.misused (bytesOf "extra operand " ++ quotedName extra) 1
  let format ← match value? given 'f' with
    | none => pure none
    | some text => match Seq.format text with
      | .ok f => pure (some f)
      | .error e => do
        i.complain e
        Plan.exit 1
  if format.isSome && has given 'w' then i.misused (bytesOf "format string may not be specified when printing equal width strings") 1
  let operands ← args.foldlM (fun seen arg => do
    match Seq.operand? arg with
    | some o => return seen ++ [o]
    | none => i.misused (bytesOf "invalid floating point argument: " ++ quotedName arg) 1) ([] : List Seq.Operand)
  let one : Seq.Operand := { scaled := 1, places := 0, width := 1 }
  let (first, step, last) := match operands with
    | [last] => (one, one, last)
    | [first, last] => (first, one, last)
    | [first, step, last] => (first, step, last)
    | _ => (one, one, one)
  if step.scaled == 0 then
    i.misused (bytesOf "invalid Zero increment value: " ++ quotedName (args[1]?.getD [])) 1
  let places := max first.places step.places
  let scale := max places last.places
  let width := if has given 'w' then
      let w (o : Seq.Operand) : Nat := o.width
      -- the last number may need one place less than it was written with
      (max (w first) (w last)) + (if places == 0 then 0 else places + 1)
    else 0
  let a := first.at scale
  let d := step.at scale
  let z := last.at scale
  let count : Nat := if 0 < d then (if z < a then 0 else ((z - a) / d).toNat + 1)
    else (if a < z then 0 else ((a - z) / (-d)).toNat + 1)
  let down : Int := (Quantity.tens (scale - places) : Nat)
  let text (n : Int) : Bytes :=
    match format with
    | none => Seq.shown places width (n / down)
    | some f => f.before ++ f.layout.real f.form (.finite (n < 0) n.natAbs (Quantity.tens scale)) ++ f.after
  let separator := (value? given 's').getD ['\n']
  Plan.loop (({} : Printer), 0) fun (p, n) => do
    if count ≤ n then
      let p ← if count == 0 then pure p else p.put i ['\n']
      let _ ← p.flush i
      return .inr 0
    let p ← p.put i ((if n == 0 then [] else separator) ++ text (a + d * (n : Int)))
    return .inl (p, n + 1)

/-! ## Expressions -/

namespace Expr

/-- Why an expression has no value. -/
inductive Flaw where
  | usage (message : Bytes)
  deriving Repr, Inhabited

/-- Reading an expression: the arguments that are left. -/
abbrev Reader := ExceptT Bytes (StateM (List Bytes × Bytes))

/-- The number that a text writes. -/
def number? (text : Bytes) : Option Int :=
  match text with
  | '-' :: digits => (Bytes.toNat? digits).map fun n => -(n : Int)
  | digits => (Bytes.toNat? digits).map fun n => (n : Int)

/-- Whether a value counts as nothing. -/
def isNull (text : Bytes) : Bool :=
  text.isEmpty || (text.all (fun c => c == '0' || c == '-') && text.contains '0' && (number? text) == some 0)

/-- A truth as a value. -/
def truth (b : Bool) : Bytes := if b then ['1'] else ['0']

/-- Takes the next argument if it is one of some. -/
def accept (names : List String) : Reader (Option String) := do
  let (args, last) ← get
  match args with
  | arg :: rest =>
    match names.find? fun name => bytesOf name == arg with
    | some name =>
      set (rest, arg)
      return some name
    | none => return none
  | [] =>
    set (args, last)
    return none

/-- Takes the next argument, which must be there. -/
def take : Reader Bytes := do
  let (args, last) ← get
  match args with
  | arg :: rest =>
    set (rest, arg)
    return arg
  | [] => throw (bytesOf "syntax error: missing argument after " ++ quotedName last)

/-- The match of an expression at the head of a text: a group if there is one, else the length. -/
def matchHead (text pattern : Bytes) : Reader Bytes := do
  match Regex.parse { extended := false } pattern with
  | .error e => throw e.message
  | .ok r =>
    let c : Regex.Cursor := { place := 0, before := none, rest := text }
    match r.longest {} text.toArray true c with
    | none => return if 0 < r.groups then [] else ['0']
    | some found =>
      if 0 < r.groups then
        match found.groups.lookup 1 with
        | some (first, last) => return (text.drop first).take (last - first)
        | none => return []
      else return Bytes.ofNat (found.last - found.first)

/-- The numbers that two texts write. -/
def numbers (a b : Bytes) : Reader (Int × Int) := do
  match number? a, number? b with
  | some x, some y => return (x, y)
  | _, _ => throw (bytesOf "non-integer argument")

/-- The operators, from the weakest to the strongest. -/
def levels : List (List String) :=
  [["|"], ["&"], ["<", "<=", "=", "==", "!=", ">=", ">"], ["+", "-"], ["*", "/", "%"], [":"]]

/-- The value of an operator. -/
def combine (o : String) (a b : Bytes) : Reader Bytes := do
  match o with
  | "|" => return if !isNull a then a else if !isNull b then b else ['0']
  | "&" => return if isNull a || isNull b then ['0'] else a
  | ":" => matchHead a b
  | "+" | "-" | "*" | "/" | "%" =>
    let (x, y) ← numbers a b
    match o with
    | "+" => return Bytes.ofInt (x + y)
    | "-" => return Bytes.ofInt (x - y)
    | "*" => return Bytes.ofInt (x * y)
    | "/" => if y == 0 then throw (bytesOf "division by zero") else return Bytes.ofInt (Int.tdiv x y)
    | _ => if y == 0 then throw (bytesOf "division by zero") else return Bytes.ofInt (Int.tmod x y)
  | o =>
    let order : Ordering := match number? a, number? b with
      | some x, some y => compare x y
      | _, _ => Bytes.compare a b
    return truth (match o with
      | "<" => order == .lt
      | "<=" => order != .gt
      | "=" | "==" => order == .eq
      | "!=" => order != .eq
      | ">=" => order != .lt
      | _ => order == .gt)

mutual

/-- Reads operands joined by operators of a level or stronger ones. Every step of `fuel` goes into an expression. -/
def level : (fuel : Nat) → List (List String) → Reader Bytes
  | 0, _ => throw (bytesOf "syntax error")
  | fuel + 1, [] => operand fuel
  | fuel + 1, names :: stronger => do
    let first ← level fuel stronger
    more fuel names stronger first

/-- Goes on after an operand. -/
def more : (fuel : Nat) → List String → List (List String) → Bytes → Reader Bytes
  | 0, _, _, _ => throw (bytesOf "syntax error")
  | fuel + 1, names, stronger, first => do
    match ← accept names with
    | none => return first
    | some o => more fuel names stronger (← combine o first (← level fuel stronger))

/-- Reads an operand. -/
def operand : (fuel : Nat) → Reader Bytes
  | 0 => throw (bytesOf "syntax error")
  | fuel + 1 => do
    match ← accept ["(", ")", "length", "match", "substr", "index", "+"] with
    | some ")" => throw (bytesOf "syntax error: unexpected ')'")
    | some "(" =>
      let value ← level fuel levels
      match ← accept [")"] with
      | some _ => return value
      | none => throw (bytesOf "syntax error: expecting ')' after " ++ quotedName (← get).2)
    | some "+" => take
    | some "length" => return Bytes.ofNat (← operand fuel).length
    | some "match" =>
      let text ← operand fuel
      matchHead text (← operand fuel)
    | some "index" =>
      let text ← operand fuel
      let chars ← operand fuel
      return match text.findIdx? chars.contains with
        | some n => Bytes.ofNat (n + 1)
        | none => ['0']
    | some _ =>
      let text ← operand fuel
      let place ← operand fuel
      let count ← operand fuel
      match number? place, number? count with
      | some p, some n => return if p ≤ 0 || n ≤ 0 then [] else (text.drop (p.toNat - 1)).take n.toNat
      | _, _ => return []
    | none => take

end

end Expr

/-- The value of an expression. -/
def expr (i : Invocation) : Plan Nat := do
  let args := if i.args.head? == some ['-', '-'] then i.args.tail else i.args
  if args.isEmpty then i.misused (bytesOf "missing operand") 2
  match (Expr.level (8 * args.length + 20) Expr.levels).run.run (args, []) with
  | (.error e, _) =>
    i.complain e
    return 2
  | (.ok value, (rest, _)) =>
    match rest with
    | extra :: _ =>
      i.complain (bytesOf "syntax error: unexpected argument " ++ quotedName extra)
      return 2
    | [] =>
      i.print (value ++ ['\n'])
      return if Expr.isNull value then 1 else 0

/-! ## Formats -/

namespace Printf

/-- How far a format was printed. -/
structure State where
  args : List Bytes
  used : Bool := false
  status : Nat := 0
  shown : List Bytes := []
  complaints : List Bytes := []
  stop : Bool := false
  deriving Inhabited

/-- Adds text. -/
def State.put (s : State) (text : Bytes) : State := { s with shown := text :: s.shown }

/-- Takes the next argument. -/
def State.take (s : State) : Option Bytes × State := (s.args.head?, { s with args := s.args.tail, used := true })

/-- Adds a complaint. -/
def State.complain (s : State) (text : Bytes) : State := { s with complaints := s.complaints ++ [text], status := 1 }

/-- The next argument as a whole number. -/
def State.whole (s : State) : Int × State :=
  match s.take with
  | (none, s) => (0, s)
  | (some ('\'' :: c :: _), s) | (some ('"' :: c :: _), s) => (c.toNat, s)
  | (some arg, s) =>
    let text := arg.dropWhile Bytes.isSpace
    let (negative, digits) := match text with
      | '-' :: rest => (true, rest)
      | '+' :: rest => (false, rest)
      | rest => (false, rest)
    let (base, digits) := match digits with
      | '0' :: 'x' :: rest | '0' :: 'X' :: rest => (16, rest)
      | '0' :: rest => (8, '0' :: rest)
      | rest => (10, rest)
    let (n, rest) := Bytes.readDigits base 0 digits
    let value : Int := if negative then -(n : Int) else n
    if rest.length == digits.length then (0, s.complain (quotedName arg ++ bytesOf ": expected a numeric value"))
    else if !rest.isEmpty then (value, s.complain (quotedName arg ++ bytesOf ": value not completely converted"))
    else (value, s)

/-- The next argument as a number with a point. -/
def State.quantity (s : State) : Quantity × State :=
  match s.take with
  | (none, s) => (.finite false 0 1, s)
  | (some arg, s) =>
    match Quantity.read Quantity.extended arg with
    | none => (.finite false 0 1, s.complain (quotedName arg ++ bytesOf ": expected a numeric value"))
    | some (q, _, rest) =>
      (q, if rest.isEmpty then s else s.complain (quotedName arg ++ bytesOf ": value not completely converted"))

/-- Prints a format once. Every step of `fuel` reads a character or more. -/
def once : (fuel : Nat) → State → Bytes → State
  | 0, s, _ | _ + 1, s, [] => s
  | _ + 1, s, '\\' :: 'c' :: _ => { s with stop := true }
  | fuel + 1, s, '\\' :: '"' :: rest => once fuel (s.put ['"']) rest
  | fuel + 1, s, '\\' :: rest =>
    match Echo.escape? false rest with
    | some (c, rest) => once fuel (s.put [c]) rest
    | none => once fuel (s.put ('\\' :: rest.take 1)) (rest.drop 1)
  | fuel + 1, s, '%' :: '%' :: rest => once fuel (s.put ['%']) rest
  | fuel + 1, s, '%' :: rest =>
    let (layout, rest) := Layout.readFlags {} rest
    let (layout, s, rest) := match rest with
      | '*' :: rest =>
        let (n, s) := s.whole
        ({ layout with width := n.natAbs, left := layout.left || n < 0 }, s, rest)
      | rest =>
        let digits := rest.takeWhile Char.isDigit
        ({ layout with width := Bytes.toNat digits }, s, rest.drop digits.length)
    let (layout, s, rest) := match rest with
      | '.' :: '*' :: rest =>
        let (n, s) := s.whole
        ({ layout with precision := if n < 0 then none else some n.toNat }, s, rest)
      | '.' :: rest =>
        let digits := rest.takeWhile Char.isDigit
        ({ layout with precision := some (Bytes.toNat digits) }, s, rest.drop digits.length)
      | rest => (layout, s, rest)
    match rest with
    | [] => s
    | form :: rest =>
      match form with
      | 's' =>
        let (arg, s) := s.take
        once fuel (s.put (layout.text (arg.getD []))) rest
      | 'b' =>
        let (arg, s) := s.take
        let arg := arg.getD []
        let (text, stop) := Echo.escaped (arg.length + 1) arg
        let s := s.put (layout.text text)
        if stop then { s with stop := true } else once fuel s rest
      | 'c' =>
        let (arg, s) := s.take
        once fuel (s.put (layout.text ((arg.getD []).take 1))) rest
      | 'd' | 'i' =>
        let (n, s) := s.whole
        once fuel (s.put (layout.signed n)) rest
      | 'u' | 'o' | 'x' | 'X' =>
        let (n, s) := s.whole
        let n := if n < 0 then (n + 0x10000000000000000).toNat else n.toNat
        let base := if form == 'o' then 8 else if form == 'u' then 10 else 16
        once fuel (s.put (layout.unsigned base (form == 'X') n)) rest
      | form =>
        if "aefgAEFG".toList.contains form then
          let (q, s) := s.quantity
          once fuel (s.put (layout.real form q)) rest
        else { s.complain ('%' :: form :: bytesOf ": invalid conversion specification") with stop := true }
  | fuel + 1, s, c :: rest =>
    let text := (c :: rest).takeWhile fun c => c != '\\' && c != '%'
    once fuel (s.put text) ((c :: rest).drop text.length)

/-- Prints a format as long as arguments are left. Every step of `fuel` takes an argument. -/
def all (format : Bytes) : (fuel : Nat) → State → State
  | 0, s => s
  | fuel + 1, s =>
    let s := once (format.length + 1) { s with used := false } format
    if s.stop || !s.used || s.args.isEmpty then s else all format fuel s

end Printf

/-- Prints by a format. -/
def printf (i : Invocation) : Plan Nat := do
  let args := if i.args.head? == some ['-', '-'] then i.args.tail else i.args
  match args with
  | [] => i.misused (bytesOf "missing operand") 1
  | format :: args =>
    let s := Printf.all format (args.length + 1) { args }
    for text in s.complaints do i.complain text
    i.print s.shown.reverse.flatten
    return s.status

end Frontier.Tool
