import Frontier.Tool.Basic
import Frontier.Tool.Simple

/-!
# Tools that run other tools
-/

namespace Frontier.Tool

/-- A program that cannot be run. -/
def cannotRun (i : Invocation) (name : Bytes) (e : Errno) : Plan Nat := do
  i.complain (bytesOf "failed to run command " ++ quotedName name ++ bytesOf ": " ++ e.message)
  return if e == .notFound then 127 else 126

/-- Waits for a child. -/
def awaitChild (child : Nat) : Plan (Option TaskEnd) :=
  Plan.loop () fun _ => do
    match ← Plan.ask (.wait (some child) true) with
    | .ended _ outcome => return .inr (some outcome)
    | .interrupted => return .inl ()
    | _ => return .inr none

/-- Runs a program that hang-ups do not end. -/
def nohup (i : Invocation) : Plan Nat := do
  let args := if i.args.head? == some ['-', '-'] then i.args.tail else i.args
  match args with
  | [] => i.misused (bytesOf "missing operand") 125
  | name :: _ =>
    Plan.ask (.provide Signal.hangup .ignored)
    cannotRun i name (← runOnPath i.environment args)

/-- Runs a program; how nice it is to others makes no difference here. -/
def nice (i : Invocation) : Plan Nat := do
  let (_, args) ← i.options [{ letter := 'n', takes := .value, long := "adjustment" }] 125 false
  match args with
  | [] =>
    i.print ['0', '\n']
    return 0
  | name :: _ =>
    let e ← runOnPath i.environment args
    i.complain (quotedName name ++ bytesOf ": " ++ e.message)
    return if e == .notFound then 127 else 126

/-- Runs a program; how it buffers is left to it. -/
def stdbuf (i : Invocation) : Plan Nat := do
  let forms : List OptionForm := [{ letter := 'i', takes := .value, long := "input" }, { letter := 'o', takes := .value, long := "output" },
    { letter := 'e', takes := .value, long := "error" }]
  let (_, args) ← i.options forms 125 false
  match args with
  | [] => i.misused (bytesOf "missing operand") 125
  | name :: _ => cannotRun i name (← runOnPath i.environment args)

/-- The signal that a name or a number stands for. -/
def signalOf? (text : Bytes) : Option Nat :=
  let name := text.map Char.toUpper
  let name := if name.take 3 == bytesOf "SIG" then name.drop 3 else name
  match Bytes.toNat? text with
  | some n => some n
  | none => (Signal.names.findIdx? fun s => bytesOf s == name).map (· + 1)

/-- Runs a program for a time. -/
def timeout (i : Invocation) : Plan Nat := do
  let forms : List OptionForm := [{ letter := 's', takes := .value, long := "signal" }, { letter := 'k', takes := .value, long := "kill-after" },
    { letter := 'v', long := "verbose" }, { letter := '\x01', long := "preserve-status" }, { letter := '\x02', long := "foreground" }]
  let (given, args) ← i.options forms 125 false
  match args with
  | [] | [_] => i.misused (bytesOf "missing operand") 125
  | time :: command =>
    let ticks ← match timeOf? time with
      | some n => pure n
      | none => i.misused (bytesOf "invalid time interval " ++ quotedName time) 125
    let signal ← match value? given 's' with
      | none => pure Signal.terminate
      | some name => match signalOf? name with
        | some n => pure n
        | none => i.misused (quotedName name ++ bytesOf ": invalid signal") 125
    let name := command.headD []
    let child ← Plan.fork do cannotRun i name (← runOnPath i.environment command)
    Plan.ask (.provide Signal.child .caught)
    let begun ← Plan.ask .moment
    -- a child that has ended cuts the rest short
    let ended ← Plan.loop () fun _ => do
      match ← Plan.ask (.wait (some child) false) with
      | .ended _ outcome => return .inr (some outcome)
      | _ =>
        let now ← Plan.ask .moment
        if ticks != 0 && begun + ticks ≤ now then return .inr none
        let _ ← Plan.ask .caught
        Plan.ask (.rest (if ticks == 0 then Plan.endless else begun + ticks - now))
        return .inl ()
    let status (outcome : Option TaskEnd) : Nat := match outcome with
      | some (.exited n) => n
      | some (.killed n) => 128 + n
      | none => 124
    match ended with
    | some outcome => return status (some outcome)
    | none =>
      let _ ← Plan.ask (.signal child signal)
      let outcome ← match (value? given 'k').bind timeOf? with
        | none => awaitChild child
        | some more => do
          Plan.ask (.rest more)
          match ← Plan.ask (.wait (some child) false) with
          | .ended _ outcome => pure (some outcome)
          | _ => do
            let _ ← Plan.ask (.signal child Signal.kill)
            awaitChild child
      return if has given '\x01' then status outcome
        else if outcome == some (.killed Signal.kill) then 137 else 124

/-- Sends a signal. -/
def kill (i : Invocation) : Plan Nat := do
  let (signal, targets) ← match i.args with
    | ['-', 's'] :: name :: rest => pure (signalOf? name, rest)
    | ['-', '-'] :: rest => pure (some Signal.terminate, rest)
    | ('-' :: name) :: rest => pure (signalOf? name, rest)
    | rest => pure (some Signal.terminate, rest)
  match signal with
  | none =>
    i.complain (bytesOf "unknown signal")
    return 1
  | some signal =>
    let mut status := 0
    for target in targets do
      let number : Option Int := match target with
        | '-' :: digits => (Bytes.toNat? digits).map fun n => -(n : Int)
        | digits => (Bytes.toNat? digits).map fun n => (n : Int)
      match number with
      | none =>
        i.complain (bytesOf "cannot find process \"" ++ target ++ ['"'])
        status := 1
      | some n =>
        match ← Plan.ask (.signal n signal) with
        | .ok () => pure ()
        | .error e =>
          i.complain (bytesOf "sending signal to " ++ target ++ bytesOf " failed: " ++ e.message)
          status := 1
    return status

namespace Xargs

/-- Splits the input into arguments: blanks and newlines separate them, quotes and backslashes keep what is between.
Every step of `fuel` reads a character. -/
def words : (fuel : Nat) → (quote : Option Char) → (word : Option Bytes) → Bytes → Except Char (List Bytes)
  | 0, _, _, _ => .ok []
  | _ + 1, some q, _, [] => .error q
  | _ + 1, none, word, [] => .ok (word.map List.reverse).toList
  | fuel + 1, some q, word, c :: rest =>
    if c == q then words fuel none word rest
    else if c == '\n' then .error q
    else words fuel (some q) (some (c :: word.getD [])) rest
  | fuel + 1, none, word, c :: rest =>
    if c == '\'' || c == '"' then words fuel (some c) (some (word.getD [])) rest
    else if c == '\\' then
      match rest with
      | d :: rest => words fuel none (some (d :: word.getD [])) rest
      | [] => words fuel none word []
    else if c == ' ' || c == '\t' || c == '\n' then
      (words fuel none none rest).map fun more => (word.map List.reverse).toList ++ more
    else words fuel none (some (c :: word.getD [])) rest

/-- Replaces every place where a name stands. Every step of `fuel` passes a character or the name. -/
def replace (name value : Bytes) : (fuel : Nat) → Bytes → Bytes
  | 0, text => text
  | _ + 1, [] => []
  | fuel + 1, c :: rest =>
    if name.isPrefixOf (c :: rest) && !name.isEmpty then value ++ replace name value fuel ((c :: rest).drop name.length)
    else c :: replace name value fuel rest

/-- Groups of so many. Every step of `fuel` makes one. -/
def chunks (size : Nat) : (fuel : Nat) → List Bytes → List (List Bytes)
  | 0, _ | _ + 1, [] => []
  | fuel + 1, args => args.take (max size 1) :: chunks size fuel (args.drop (max size 1))

end Xargs

/-- Runs a program with arguments from the input. -/
def xargs (i : Invocation) : Plan Nat := do
  let forms : List OptionForm := switches "0rtx" ++
    [{ letter := 'n', takes := .value }, { letter := 'L', takes := .value }, { letter := 'I', takes := .value },
      { letter := 'd', takes := .value }, { letter := 'P', takes := .value }, { letter := 's', takes := .value },
      { letter := '0', long := "null" }, { letter := 'r', long := "no-run-if-empty" }]
  let (given, args) ← i.options forms 1 false
  let command := if args.isEmpty then [bytesOf "echo"] else args
  let all ← match ← readAll 0 with
    | .ok all => pure all
    | .error _ => pure []
  let items ← if has given '0' then pure (Bytes.lines '\x00' all)
    else match value? given 'd' with
      | some (c :: more) => pure (Bytes.lines (if c == '\\' && more == ['n'] then '\n' else c) all)
      | _ =>
        if has given 'I' then
          pure (((Bytes.lines '\n' all).map fun line => line.dropWhile fun c => c == ' ' || c == '\t').filter fun line => !line.isEmpty)
        else match Xargs.words (all.length + 1) none none all with
          | .ok words => pure words
          | .error q => do
            i.complain (bytesOf ("unmatched " ++ (if q == '"' then "double" else "single") ++
              " quote; by default quotes are special to xargs unless you use the -0 option"))
            Plan.exit 1
  let batches := match value? given 'I' with
    | some name => items.map fun item => command.map fun (arg : Bytes) => Xargs.replace name item (arg.length + 1) arg
    | none =>
      let groups := match (value? given 'n').bind Bytes.toNat? with
        | some n => Xargs.chunks n (items.length + 1) items
        | none => if items.isEmpty then [] else [items]
      if groups.isEmpty && !has given 'r' then [command] else groups.map (command ++ ·)
  let mut status := 0
  for batch in batches do
    let child ← Plan.fork do
      let e ← runOnPath i.environment batch
      i.complain (batch.headD [] ++ bytesOf ": " ++ e.message)
      return if e == .notFound then 127 else 126
    match ← awaitChild child with
    | some (.exited 0) | none => pure ()
    | some (.exited 255) =>
      i.complain (batch.headD [] ++ bytesOf ": exited with status 255; aborting")
      Plan.exit 124
    | some (.exited 127) => Plan.exit 127
    | some (.exited 126) => Plan.exit 126
    | some (.exited _) => status := 123
    | some (.killed n) =>
      i.complain (batch.headD [] ++ bytesOf ": terminated by signal " ++ Bytes.ofNat n)
      Plan.exit 125
  return status

end Frontier.Tool
