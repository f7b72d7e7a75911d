import Frontier.Shell.Builtin.Flow

/-!
# Running commands

A tree of commands is run from the left to the right. What a command leaves in the shell holds for the next one,
unless it is run by a child.
-/

namespace Frontier.Shell

/-- The command at a line is run. -/
def enterLine (line : Nat) : Sh Unit :=
  modify fun s => { s with errorLine := line, line := if s.functionLine == 0 then line else line + 1 - s.functionLine }

/-- Whether some trap has something to run. -/
def hasTraps : Sh Bool := return (← get).traps.any fun t => !t.2.isEmpty

/-! ## Simple commands -/

/-- What a simple command begins with. -/
structure Heading where
  /-- The fields expanded so far. -/
  fields : List Bytes := []
  /-- The words that were not expanded yet. -/
  rest : List Word := []
  /-- Where the command begins among the fields, after `command` and its options. -/
  start : Nat := 0
  /-- The command of the shell, if it is found before programs are. -/
  own : Option String := none
  /-- Whether an error of the command ends the shell. -/
  isSpecial : Bool := false
  /-- Whether assignments before the command hold for it only. -/
  isolated : Bool := false
  /-- Another search path. -/
  path : Option Bytes := none
  deriving Inhabited

namespace Heading

/-- Expands words up to the first that gives a field. -/
def firstFields (r : Runner) : List Word → Sh (List Bytes × List Word)
  | [] => return ([], [])
  | word :: rest => do
    let found ← Shell.fields r word
    if found.isEmpty then firstFields r rest else return (found, rest)

/-- The field at a place; more words are expanded if need be. -/
def field? (r : Runner) (h : Heading) (place : Nat) : Sh (Option Bytes × Heading) := do
  match h.fields[place]? with
  | some field => return (some field, h)
  | none =>
    let (found, rest) ← firstFields r h.rest
    let h := { h with fields := h.fields ++ found, rest }
    return (h.fields[place]?, h)

/-- Passes the options of `command`: where the command after it begins, if it is to be run. -/
def passOptions (r : Runner) (h : Heading) : Sh (Option Nat × Heading) :=
  Sh.loop (h, h.start + 1) fun (h, place) => do
    let (field, h) ← h.field? r place
    match field with
    | none => return .inr (none, h)
    | some ['-', '-'] =>
      let (field, h) ← h.field? r (place + 1)
      return .inr (if field.isSome then some (place + 1) else none, h)
    | some ('-' :: c :: letters) =>
      let h := if c == 'p' then { h with path := some standardPath } else h
      if (c :: letters).all (· == 'p') then return .inl (h, place + 1) else return .inr (none, h)
    | some _ => return .inr (some place, h)

/-- Finds out what the command is, passing `command` as often as it stands there. -/
def read (r : Runner) (args : List Word) : Sh Heading := do
  let (first, h) ← ({ rest := args } : Heading).field? r 0
  if first.isNone then return h
  Sh.loop (h, true) fun (h, isFirst) => do
    let name := h.fields[h.start]?.getD []
    let text := String.ofList name
    let isFunction := isFirst && (← get).functions.any (·.1 == name)
    if isFunction || name.contains '/' || !regularCommands.contains text then
      return .inr { h with own := none, isolated := true }
    let isSpecial := specialCommands.contains text
    let h := { h with own := some text, isSpecial := isFirst && isSpecial, isolated := !(isFirst && isSpecial) }
    if text != "command" then return .inr h
    match ← h.passOptions r with
    | (some start, h) => return .inl ({ h with start }, false)
    | (none, h) => return .inr h

end Heading

/-- Runs a command of the shell. What it has printed is written at once; if that fails it is an error. -/
def runOwn (command : Option Bytes) (act : Sh Nat) : Sh (Except Raise Unit) := do
  let before := (← get).command
  modify fun s => { s with command }
  let result ← Sh.attempt do
    let status ← act
    Sh.flush
    let s ← get
    if s.isMute then Sh.warn (s.command.getD (bytesOf "(null)") ++ bytesOf ": I/O error")
    modify fun s => { s with status := if s.isMute then status ||| 1 else status }
  modify fun s => { s with command := before, printed := [], printedSize := 0, isMute := false }
  return result

/-- Runs a function. -/
def runFunction (r : Runner) (m : Manner) (line : Nat) (body : Tree) (params : List Bytes) : Sh (Except Raise Unit) := do
  let s ← get
  set { s with params, functionLine := line, loops := 0, optionIndex := 1, optionOffset := none }
  let result ← Sh.attempt (r.run { isTested := m.isTested } body)
  modify fun t => { t with
    params := s.params, functionLine := s.functionLine, loops := s.loops
    optionIndex := s.optionIndex, optionOffset := s.optionOffset
    skip := match t.skip with
      | .return _ => .nothing
      | skip => skip }
  return result.map fun _ => ()

/-- Prints a command before it is run, if that is wanted. -/
def trace (shown : List Bytes) : Sh Unit := do
  let s ← get
  if s.options.contains 'x' then
    let mark := (← Sh.value? (bytesOf "PS4")).getD []
    let _ ← Sh.ask (.write s.traceDescriptor (mark ++ Bytes.join [' '] shown ++ ['\n']))

/-- How long a command takes, besides what it asks for. -/
def commandTime : Nat := 4

/-- Runs a command that was found, and gives its status. -/
def runFound (r : Runner) (m : Manner) (isSpecial : Bool) (path : Bytes) (found : Found) (args : List Bytes) : Sh Nat := do
  match found with
  | .own name =>
    match ← runOwn args.head? (commandNamed r m name args.tail) with
    | .ok () => pure ()
    | .error e => if e != .error || isSpecial then Sh.raise e
    noteEnds
    return (← get).status
  | .function line body =>
    match ← runFunction r m line body args.tail with
    | .ok () => pure ()
    | .error e => Sh.raise e
    noteEnds
    return (← get).status
  | .program _ =>
    if m.isLast && !(← hasTraps) then takeOver path args
    makePlace
    awaitChildren [← Sh.fork (takeOver path args)]
  | .unknown e =>
    Sh.warn (args.headD [] ++ bytesOf ": " ++ reason e "not found")
    modify fun s => { s with status := 127 }
    if isSpecial then Sh.raise .error
    return 127

/-- Runs a simple command. -/
def runSimple (r : Runner) (m : Manner) (line : Nat) (assignments args : List Word) (redirections : List Redirection) :
    Sh Nat := do
  let _ ← Sh.ask (.work commandTime)
  enterLine line
  modify fun s => { s with substituted := 0 }
  let h ← Heading.read r args
  let assigns := h.own.any assigningCommands.contains
  let more ← h.rest.mapM fun word => do
    if assigns && isAssignment word then return [← text r { assignment := true } word] else fields r word
  let all := h.fields ++ more.flatten
  let args := all.drop h.start
  let isExec := h.own == some "exec"
  let s ← get
  if h.isolated then modify fun s => { s with locals := [] :: s.locals }
  modify fun s => { s with traceDescriptor := 2 }
  let targets ← expandRedirections r redirections
  let status ← do
    if !(← redirectSafely r targets) then
      modify fun s => { s with status := 2 }
      if h.isSpecial then Sh.raise .error
      pure 2
    else
      modify fun s => { s with traceDescriptor := ((s.saved.head?.bind fun frame =>
        if targets.isEmpty then none else (frame.lookup 2).join)).getD 2 }
      let assigned ← assignments.mapM fun word => do
        let text ← text r { assignment := true } word
        if h.isolated then makeLocal text true
        else
          let (name, value) := nameAndValue text
          Sh.setVariable name value (isExec && 1 < args.length)
        return text
      trace (assigned ++ all)
      match h.own, args with
      | none, [] =>
        match ← runOwn none (do return (← get).substituted) with
        | .ok () => pure ()
        | .error e => if e != .error then Sh.raise e
        noteEnds
        pure (← get).status
      | own, _ =>
        let path := h.path.getD (← searchPath)
        let found ← match own with
          | some name => pure (Found.own name)
          | none => findCommand (args.headD []) (h.start == 0) h.path
        runFound r m h.isSpecial path found args
  unwindTo s.saved.length isExec
  Sh.restoreTo s.locals.length
  return status

/-! ## Other commands -/

/-- What a loop does after its commands were run. -/
inductive Turn where
  | onward
  /-- The next round begins. -/
  | again
  /-- The loop is left; whether a function is left with a status. -/
  | out (byReturn : Bool)
  deriving DecidableEq, Repr, Inhabited

/-- Follows what the commands of a loop have asked for. -/
def turnOf : Sh Turn := do
  let skipTo (skip : Skip) : Sh Unit := modify fun s => { s with skip }
  match (← get).skip with
  | .nothing => return .onward
  | .break n =>
    skipTo (if n ≤ 1 then .nothing else .break (n - 1))
    return .out false
  | .continue n =>
    if n ≤ 1 then
      skipTo .nothing
      return .again
    else
      skipTo (.continue (n - 1))
      return .out false
  | .return withStatus => return .out withStatus

/-- Runs something inside a loop. -/
def insideLoop (act : Sh Nat) : Sh Nat := do
  modify fun s => { s with loops := s.loops + 1 }
  let status ← act
  modify fun s => { s with loops := s.loops - 1 }
  return status

/-- Runs commands for each of some words. -/
def runEach (r : Runner) (m : Manner) (name : Bytes) (values : List Bytes) (body : Tree) : Sh Nat :=
  insideLoop <| Sh.loop (values, 0) fun (values, status) => do
    match values with
    | [] => return .inr status
    | value :: values =>
      Sh.assign name value
      let status ← r.run { isTested := m.isTested } body
      match ← turnOf with
      | .out _ => return .inr status
      | _ => return .inl (values, status)

/-- Runs commands as long as a test succeeds, or until it does. -/
def runLoop (r : Runner) (m : Manner) (untilDone : Bool) (test body : Tree) : Sh Nat :=
  insideLoop <| Sh.loop 0 fun status => do
    let result ← r.run { isTested := true } test
    match ← turnOf with
    | .again => return .inl status
    | .out byReturn => return .inr (if byReturn then result else status)
    | .onward =>
      if (result == 0) == untilDone then return .inr status
      let status ← r.run { isTested := m.isTested } body
      match ← turnOf with
      | .out _ => return .inr status
      | _ => return .inl status

/-- The commands after the first pattern that fits. -/
def branchFor (r : Runner) (text : Bytes) : List (List Word × Tree) → Sh (Option Tree)
  | [] => return none
  | (patterns, body) :: rest => do
    let rec fits : List Word → Sh Bool
      | [] => return false
      | p :: more => do
        if Glob.accepts (← pattern r p) text then return true else fits more
    if ← fits patterns then return some body else branchFor r text rest

/-- Runs commands in a child, or here if nothing comes after them. -/
def runSubshell (r : Runner) (m : Manner) (inBackground : Bool) (body : Tree) (redirections : List Redirection) : Sh Nat := do
  let targets ← expandRedirections r redirections
  let inside (m : Manner) : Sh Nat := do
    redirect r false targets
    r.run m body
  if !inBackground && m.isLast && !(← hasTraps) then inside m
  else
    makePlace
    let child ← forkShell r do
      if inBackground then enterBackground true
      inside { isLast := true, isTested := m.isTested && !inBackground }
    if inBackground then
      noteJob [child]
      return 0
    else awaitChildren [child]

/-- A command of a pipeline is looked for before its child is there, so that its place is remembered. -/
def remember : Tree → Sh Unit
  | .simple _ _ (word :: _) _ => do
    match plainText? word with
    | some name => if isName name then let _ ← findCommand name true none
    | none => pure ()
  | _ => pure ()

/-- Runs commands beside each other, each reading what the one before it prints. -/
def runPipeline (r : Runner) (m : Manner) (inBackground : Bool) (parts : List Tree) : Sh Nat := do
  makePlace
  let rec start (isFirst : Bool) (before : Option Nat) : List Tree → Sh (List Nat)
    | [] => return []
    | part :: rest => do
      remember part
      let pipe ← if rest.isEmpty then pure none else some <$> Sh.ask .makePipe
      let child ← forkShell r do
        if inBackground then enterBackground isFirst
        if let some (reading, _) := pipe then
          let _ ← Sh.ask (.close reading)
        if let some d := before then
          if 0 < d then
            let _ ← Sh.ask (.replace d 0)
            let _ ← Sh.ask (.close d)
        if let some (_, writing) := pipe then
          if 1 < writing then
            let _ ← Sh.ask (.replace writing 1)
            let _ ← Sh.ask (.close writing)
        r.run { isLast := true, isTested := m.isTested } part
      if let some d := before then
        let _ ← Sh.ask (.close d)
      if let some (_, writing) := pipe then
        let _ ← Sh.ask (.close writing)
      return child :: (← start false (pipe.map (·.1)) rest)
  let children ← start true none parts
  if inBackground then
    noteJob children
    return 0
  else awaitChildren children

/-- Runs a command. The flag tells whether its failure ends a shell with the option `e`. -/
def runTree (r : Runner) (m : Manner) (tree : Tree) : Sh (Nat × Bool) := do
  let inner : Manner := { isTested := m.isTested }
  let tested : Manner := { isTested := true }
  let settled (checks : Bool) (status : Nat) : Sh (Nat × Bool) := do
    modify fun s => { s with status }
    return (status, checks)
  let isSkipping : Sh Bool := return (← get).skip != .nothing
  match tree with
  | .nothing => return (0, false)
  | .negation body => settled false (if (← r.run tested body) == 0 then 1 else 0)
  | .redirected line body redirections =>
    enterLine line
    let levels := (← get).saved.length
    let targets ← expandRedirections r redirections
    let status ← do
      if ← redirectSafely r targets then r.run inner body else pure 2
    unwindTo levels false
    settled false status
  | .simple line assignments args redirections =>
    settled true (← runSimple r m line assignments args redirections)
  | .each line name words body =>
    enterLine line
    let values := (← words.mapM (fields r)).flatten
    settled false (← runEach r m name values body)
  | .loop untilDone test body => settled false (← runLoop r m untilDone test body)
  | .subshell line body redirections =>
    enterLine line
    settled true (← runSubshell r m false body redirections)
  | .background line body redirections =>
    enterLine line
    settled true (← runSubshell r m true body redirections)
  | .pipeline inBackground parts => settled true (← runPipeline r m inBackground parts)
  | .cases line word branches =>
    enterLine line
    let subject ← text r { tilde := true } word
    match ← branchFor r subject branches with
    | some .nothing | none => settled false 0
    | some body => settled false (← r.run m body)
  | .both first second =>
    let status ← r.run tested first
    if status != 0 || (← isSkipping) then return (status, false)
    settled false (← r.run m second)
  | .either first second =>
    let status ← r.run tested first
    if status == 0 || (← isSkipping) then return (status, false)
    settled false (← r.run m second)
  | .sequence first second =>
    let status ← r.run inner first
    if ← isSkipping then return (status, false)
    settled false (← r.run m second)
  | .choice test yes no =>
    let status ← r.run tested test
    if ← isSkipping then return (status, false)
    if status == 0 then settled false (← r.run m yes)
    else match no with
      | .nothing => settled false 0
      | no => settled false (← r.run m no)
  | .function line name body =>
    modify fun s => { s with functions := (name, line, body) :: s.functions.filter (·.1 != name) }
    settled false 0

/-- Runs a command, and answers the signals that come before and after it. -/
def evaluate (r : Runner) (m : Manner) (tree : Tree) : Sh Nat := do
  let isIdle := (← Sh.option 'n') || (match tree with
    | .nothing => true
    | _ => false)
  let (status, checks) ← if isIdle then pure (0, false) else do
    answerSignals r
    runTree r m tree
  answerSignals r
  if checks && !m.isTested && status != 0 && (← Sh.option 'e') then Sh.raise .finished
  if m.isLast then Sh.raise .finished
  return status

/-- The shell has no room for more commands inside each other: it is ended by a signal. -/
def overflow : Sh Nat := do
  let (self, _) ← Sh.ask .identity
  let _ ← Sh.ask (.signal self Signal.segfault)
  Sh.stop (128 + Signal.segfault)

/-- Runs commands down to a depth. -/
def runner : (depth : Nat) → Runner
  | 0 => ⟨fun _ _ => overflow, fun _ _ => overflow⟩
  | depth + 1 =>
    ⟨fun m tree => evaluate (runner depth) m tree, fun m text => runWhole (runner depth).run m text⟩

end Frontier.Shell
