import Frontier.Shell.Builtin.Print

/-!
# Tests

The command `test`, which is also called `[`, compares texts and numbers, and looks at files. What an argument means
depends on those after it: the name of an operator may also be an operand.
-/

namespace Frontier.Shell.Testing

/-- The operators. -/
inductive Operator where
  /-- One operand follows. -/
  | one (name : String)
  /-- It stands between two operands. -/
  | two (name : String)
  | not
  | and
  | or
  | openParen
  | closeParen
  deriving DecidableEq, Repr, Inhabited

/-- The names of operators with one operand. -/
def unary : List String :=
  ["-r", "-w", "-x", "-e", "-f", "-d", "-c", "-b", "-p", "-u", "-g", "-k", "-s", "-t", "-z", "-n", "-h", "-O", "-G",
    "-L", "-S"]

/-- The names of operators with two operands. -/
def binary : List String :=
  ["=", "!=", "<", ">", "-eq", "-ne", "-ge", "-gt", "-le", "-lt", "-nt", "-ot", "-ef"]

/-- The operator with a name. -/
def operator? (arg : Bytes) : Option Operator :=
  let name := String.ofList arg
  match name with
  | "!" => some .not
  | "-a" => some .and
  | "-o" => some .or
  | "(" => some .openParen
  | ")" => some .closeParen
  | _ => if unary.contains name then some (.one name) else if binary.contains name then some (.two name) else none

/-- Whether an argument, which is the name of an operator with one operand, is itself an operand. -/
def isOperand : List Bytes → Bool
  | [_] => true
  | [_, _] => false
  | _ :: second :: _ => match operator? second with
    | some (.two _) => true
    | _ => false
  | [] => true

/-- What the argument at the head of a list is: nothing if there is none, and no operator if it is an operand. -/
inductive Role where
  | missing
  | operand
  | operator (o : Operator)
  deriving DecidableEq, Repr, Inhabited

/-- What the argument at the head of a list is. -/
def role (args : List Bytes) : Role :=
  match args with
  | [] => .missing
  | arg :: rest =>
    match operator? arg with
    | some (.one name) => if isOperand args then .operand else .operator (.one name)
    | some .openParen => if rest.isEmpty then .operand else .operator .openParen
    | some o => .operator o
    | none => .operand

/-- A number among the operands. -/
def number (arg : Bytes) : Sh Int := do
  match wholeNumber? (some 10) arg with
  | some n => return n
  | none => Sh.fail (bytesOf "Illegal number: " ++ arg)

/-- A message about an operator. -/
def wrong {α : Type} (operator : Bytes) (message : String) : Sh α :=
  Sh.fail (if operator.isEmpty then bytesOf message else operator ++ bytesOf (": " ++ message))

/-- Tests one operand. -/
def testOne (name : String) (arg : Bytes) : Sh Bool := do
  let facts (follows : Bool) (p : FileFacts → Bool) : Sh Bool := do
    match ← Sh.ask (.facts arg follows) with
    | .ok f => return p f
    | .error _ => return false
  match name with
  | "-z" => return arg.isEmpty
  | "-n" => return !arg.isEmpty
  | "-t" =>
    let _ ← number arg
    return false
  | "-e" | "-r" | "-w" | "-O" | "-G" => facts true fun _ => true
  | "-x" => facts true fun f => f.kind == .directory || f.mode / 64 % 2 == 1 || f.mode % 2 == 1
  | "-f" => facts true (·.kind == .plain)
  | "-d" => facts true (·.kind == .directory)
  | "-c" => facts true (·.kind == .device)
  | "-p" => facts true (·.kind == .pipe)
  | "-s" => facts true (0 < ·.size)
  | "-h" | "-L" => facts false (·.kind == .link)
  | "-k" => facts true fun f => f.mode / 512 % 2 == 1
  | _ => return false

/-- Tests two operands. -/
def testTwo (name : String) (left right : Bytes) : Sh Bool := do
  let compare (f : Int → Int → Bool) : Sh Bool := do
    let m ← number left
    return f m (← number right)
  match name with
  | "=" => return left == right
  | "!=" => return left != right
  | "<" => return Bytes.compare left right == .lt
  | ">" => return Bytes.compare left right == .gt
  | "-eq" => compare (· == ·)
  | "-ne" => compare (· != ·)
  | "-ge" => compare fun m n => n ≤ m
  | "-gt" => compare fun m n => n < m
  | "-le" => compare fun m n => m ≤ n
  | "-lt" => compare fun m n => m < n
  | "-ef" =>
    match ← Sh.ask (.facts left true), ← Sh.ask (.facts right true) with
    | .ok a, .ok b => return a.number == b.number
    | _, _ => return false
  | _ => return false

/-! Each of the following tests the arguments from the head of a list on. It gives the result and the list that begins
with the last argument it has used. Every step of `fuel` goes one level down. -/

mutual

/-- Tests what is joined by `-o`. -/
def anyOf : (fuel : Nat) → Bool → Role → List Bytes → Sh (Bool × List Bytes)
  | 0, before, _, args => return (before, args)
  | fuel + 1, before, s, args => do
    let (result, args) ← allOf fuel true s args
    let result := before || result
    if role args.tail == .operator .or then anyOf fuel result (role (args.drop 2)) (args.drop 2)
    else return (result, args)

/-- Tests what is joined by `-a`. -/
def allOf : (fuel : Nat) → Bool → Role → List Bytes → Sh (Bool × List Bytes)
  | 0, before, _, args => return (before, args)
  | fuel + 1, before, s, args => do
    let (result, args) ← negated fuel s args
    let result := before && result
    if role args.tail == .operator .and then allOf fuel result (role (args.drop 2)) (args.drop 2)
    else return (result, args)

/-- Tests what may be negated. -/
def negated : (fuel : Nat) → Role → List Bytes → Sh (Bool × List Bytes)
  | 0, _, args => return (false, args)
  | fuel + 1, s, args => do
    if s == .operator .not then
      let s := role args.tail
      let (result, args) ← negated fuel s (if s == .missing then args else args.tail)
      return (!result, args)
    else primary fuel s args

/-- Tests operands, or what stands in parentheses. -/
def primary : (fuel : Nat) → Role → List Bytes → Sh (Bool × List Bytes)
  | 0, _, args => return (false, args)
  | fuel + 1, s, args => do
    match s with
    | .missing => return (false, args)
    | .operator .openParen =>
      let inside := args.tail
      if role inside == .operator .closeParen then return (false, inside)
      let (result, args) ← anyOf fuel false (role inside) inside
      if role args.tail != .operator .closeParen then wrong [] "closing paren expected"
      return (result, args.tail)
    | .operator (.one name) =>
      match args.tail with
      | [] => wrong (bytesOf name) "argument expected"
      | arg :: rest => return (← testOne name arg, arg :: rest)
    | _ =>
      match role args.tail, args with
      | .operator (.two name), left :: operator :: rest =>
        match rest with
        | [] => wrong operator "argument expected"
        | right :: more => return (← testTwo name left right, right :: more)
      | _, arg :: _ => return (!arg.isEmpty, args)
      | _, [] => return (false, [])

end

/-- Tests some arguments; `expected` is what counts as success. -/
def whole (expected : Bool) (s : Role) (args : List Bytes) : Sh Nat := do
  let (result, rest) ← anyOf (20 * args.length + 20) false s args
  match rest with
  | used :: _ :: _ => wrong used "unexpected operator"
  | _ => pure ()
  return if result == expected then 0 else 1

/-- Tests arguments; few of them are taken by their number. -/
def arguments : (fuel : Nat) → (expected : Bool) → List Bytes → Sh Nat
  | 0, _, _ => return 1
  | fuel + 1, expected, args => do
    match args with
    | [] => return if expected then 1 else 0
    | [a, b, c] =>
      match operator? b with
      | some (.two _) => whole expected .operand args
      | _ =>
        if a == ['('] && c == [')'] then whole expected (role [b]) [b]
        else if a == ['!'] then arguments fuel false [b, c]
        else whole expected (role args) args
    | [a, b, c, d] =>
      if a == ['('] && d == [')'] then whole expected (role [b, c]) [b, c]
      else if a == ['!'] then arguments fuel false [b, c, d]
      else whole expected (role args) args
    | args => whole expected (role args) args

end Testing

/-- Tests arguments. -/
def test : Builtin := fun args => Testing.arguments (args.length + 2) true args

/-- As `test`, up to a closing bracket. -/
def bracket : Builtin := fun args => do
  if args.getLast? == some [']'] then test args.dropLast else Sh.failWith "missing ]"

end Frontier.Shell
