import Frontier.Shell.Number
import Frontier.Shell.Syntax

/-!
# Arithmetic

Expressions are computed while they are read. A part that does not count, such as the second operand of `0 && …`, is
read without effect.
-/

namespace Frontier.Shell.Arithmetic

/-- A part of an expression. -/
inductive Lexeme where
  | number (n : Int)
  | variable (name : Bytes)
  | operator (text : String)
  | wrong
  | finished
  deriving DecidableEq, Repr, Inhabited

/-- The operators, longer ones first. -/
def operators : List String :=
  ["<<=", ">>=", "+=", "-=", "*=", "/=", "%=", "&=", "^=", "|=", "||", "&&", "==", "!=", "<=", ">=", "<<", ">>",
    "=", "|", "^", "&", "<", ">", "+", "-", "*", "/", "%", "(", ")", "!", "~", "?", ":"]

/-- Reads a part. -/
def lexeme (text : Bytes) : Lexeme × Bytes :=
  let text := text.dropWhile fun c => c == ' ' || c == '\t' || c == '\n'
  match text with
  | [] => (.finished, [])
  | c :: _ =>
    if c.isDigit then
      let (n, rest) := readNumeral text
      (.number (clamp n), rest)
    else if beginsName c then (.variable (text.takeWhile inName), text.dropWhile inName)
    else match operators.find? fun o => (bytesOf o).isPrefixOf text with
      | some o => (.operator o, text.drop o.length)
      | none => (.wrong, text)

/-- Why an expression has no value. -/
inductive Flaw where
  | expected (what : String)
  | divisionByZero
  /-- A variable holds no number. -/
  | noNumber (value : Bytes)
  /-- A variable cannot be set. -/
  | isFixed (name : Bytes)
  /-- The machine gives up. -/
  | crash
  deriving DecidableEq, Repr, Inhabited

/-- How far an expression was read, and the variables it has set, latest first. -/
structure Reading where
  /-- The part that was read last, and the rest. -/
  last : Lexeme
  rest : Bytes
  changes : List (Bytes × Int) := []
  /-- The value of a variable that was not set here. -/
  look : Bytes → Except Flaw Int
  isFixed : Bytes → Bool

/-- Reading an expression. -/
abbrev Reader := StateT Reading (Except Flaw)

/-- Goes on to the next part. -/
def advance : Reader Unit := modify fun r =>
  let (last, rest) := lexeme r.rest
  { r with last, rest }

/-- The value of a variable. -/
def valueOf (name : Bytes) : Reader Int := do
  let r ← get
  match r.changes.lookup name with
  | some n => return n
  | none => match r.look name with
    | .ok n => return n
    | .error e => throw e

/-- Sets a variable. -/
def setTo (name : Bytes) (n : Int) : Reader Int := do
  if (← get).isFixed name then throw (.isFixed name)
  modify fun r => { r with changes := (name, n) :: r.changes }
  return n

/-- How an operator with two operands binds; the smaller the closer. -/
def rank : String → Option Nat
  | "*" | "/" | "%" => some 0
  | "+" | "-" => some 1
  | "<<" | ">>" => some 2
  | "<" | "<=" | ">" | ">=" => some 3
  | "==" | "!=" => some 4
  | "&" => some 5
  | "^" => some 6
  | "|" => some 7
  | _ => none

/-- A truth value as a number. -/
def truth (b : Bool) : Int := if b then 1 else 0

/-- Combines two numbers. -/
def combine (operator : String) (a b : Int) : Except Flaw Int :=
  let bits (f : BitVec 64 → BitVec 64 → BitVec 64) : Int := (f (BitVec.ofInt 64 a) (BitVec.ofInt 64 b)).toInt
  let divide (f : Int → Int → Int) : Except Flaw Int :=
    if b == 0 then .error .divisionByZero
    else if a == smallest && b == -1 then .error .crash
    else .ok (f a b)
  match operator with
  | "+" => .ok (wrap (a + b))
  | "-" => .ok (wrap (a - b))
  | "*" => .ok (wrap (a * b))
  | "/" => divide Int.tdiv
  | "%" => divide Int.tmod
  | "==" => .ok (truth (a == b))
  | "!=" => .ok (truth (a != b))
  | "<" => .ok (truth (a < b))
  | "<=" => .ok (truth (a ≤ b))
  | ">" => .ok (truth (b < a))
  | ">=" => .ok (truth (b ≤ a))
  | "&" => .ok (bits (· &&& ·))
  | "|" => .ok (bits (· ||| ·))
  | "^" => .ok (bits (· ^^^ ·))
  | "<<" => .ok (bits fun x y => x <<< (y.toNat % 64))
  | ">>" => .ok (bits fun x y => x.sshiftRight (y.toNat % 64))
  | _ => .ok b

/-- The rank of the operator that was read last. -/
def lastRank : Reader (Option (String × Nat)) := do
  match (← get).last with
  | .operator o => return (rank o).map (o, ·)
  | _ => return none

/-- What an operator that sets a variable does with its old value; nothing for plain setting. -/
def setting? (o : String) : Option (Option String) :=
  if o == "=" then some none
  else if ["+=", "-=", "*=", "/=", "%=", "<<=", ">>=", "&=", "^=", "|="].contains o then
    some (some (String.ofList o.toList.dropLast))
  else none

mutual

/-- Reads a setting of a variable, or a choice. Every level of `fuel` reads a part. -/
def whole : (fuel : Nat) → (counts : Bool) → Reader Int
  | 0, _ => throw (.expected "primary")
  | fuel + 1, counts => do
    let r ← get
    match r.last, lexeme r.rest with
    | .variable name, (.operator o, rest) =>
      match setting? o with
      | some change =>
        set { r with last := .operator o, rest }
        advance
        let n ← whole fuel counts
        if !counts then return n
        let n ← match change with
          | none => pure n
          | some o => do
            let old ← valueOf name
            match combine o old n with
            | .ok n => pure n
            | .error e => throw e
        setTo name n
      | none => choice fuel counts
    | _, _ => choice fuel counts

/-- Reads a choice by a test, or an alternative. -/
def choice : (fuel : Nat) → (counts : Bool) → Reader Int
  | 0, _ => throw (.expected "primary")
  | fuel + 1, counts => do
    let test ← alternative fuel counts
    if (← get).last != .operator "?" then return test
    advance
    let yes ← whole fuel (counts && test != 0)
    if (← get).last != .operator ":" then throw (.expected "':'")
    advance
    let no ← choice fuel (counts && test == 0)
    return if test != 0 then yes else no

/-- Reads operands of `||`. -/
def alternative : (fuel : Nat) → (counts : Bool) → Reader Int
  | 0, _ => throw (.expected "primary")
  | fuel + 1, counts => do
    let a ← conjunction fuel counts
    if (← get).last != .operator "||" then return a
    advance
    let b ← alternative fuel (counts && a == 0)
    return truth (a != 0 || b != 0)

/-- Reads operands of `&&`. -/
def conjunction : (fuel : Nat) → (counts : Bool) → Reader Int
  | 0, _ => throw (.expected "primary")
  | fuel + 1, counts => do
    let a ← operand fuel counts
    let a ← match ← lastRank with
      | some (o, _) => operations fuel counts a o 8
      | none => pure a
    if (← get).last != .operator "&&" then return a
    advance
    let b ← conjunction fuel (counts && a != 0)
    return truth (a != 0 && b != 0)

/-- Reads on after an operand and an operator, as long as operators bind closer than a rank. -/
def operations : (fuel : Nat) → (counts : Bool) → Int → String → Nat → Reader Int
  | 0, _, _, _, _ => throw (.expected "primary")
  | fuel + 1, counts, a, o, limit => do
    advance
    let b ← operand fuel counts
    let own := (rank o).getD 0
    let b ← match ← lastRank with
      | some (p, r) => if r < own then operations fuel counts b p own else pure b
      | none => pure b
    let a ← if counts then
        match combine o a b with
        | .ok n => pure n
        | .error e => throw e
      else pure b
    match ← lastRank with
    | some (p, r) => if r < limit then operations fuel counts a p limit else return a
    | none => return a

/-- Reads an operand. -/
def operand : (fuel : Nat) → (counts : Bool) → Reader Int
  | 0, _ => throw (.expected "primary")
  | fuel + 1, counts => do
    match (← get).last with
    | .operator "(" =>
      advance
      let n ← whole fuel counts
      if (← get).last != .operator ")" then throw (.expected "')'")
      advance
      return n
    | .number n =>
      advance
      return n
    | .variable name =>
      advance
      if counts then valueOf name else return 0
    | .operator "+" =>
      advance
      operand fuel counts
    | .operator "-" =>
      advance
      return wrap (-(← operand fuel counts))
    | .operator "!" =>
      advance
      return truth ((← operand fuel counts) == 0)
    | .operator "~" =>
      advance
      return -(← operand fuel counts) - 1
    | _ => throw (.expected "primary")

end

/-- The value of an expression, with the variables it has set, latest first. -/
def value (look : Bytes → Except Flaw Int) (isFixed : Bytes → Bool) (text : Bytes) :
    Except Flaw (Int × List (Bytes × Int)) :=
  let compute : Reader Int := do
    advance
    let n ← whole (10 * text.length + 20) true
    if (← get).last != .finished then throw (.expected "EOF")
    return n
  match compute.run { last := .finished, rest := text, look, isFixed } with
  | .ok (n, r) => .ok (n, r.changes)
  | .error e => .error e

end Frontier.Shell.Arithmetic
