import Frontier.Shell.Builtin.Variables

/-!
# Commands for signals and jobs
-/

namespace Frontier.Shell

/-- How many signals there are, counting the number 0. -/
def signalCount : Nat := 65

/-- The name of a signal as the shell shows it. -/
def signalName (signal : Nat) : Bytes :=
  if signal == 0 then bytesOf "EXIT"
  else if signal == 16 || signal == 32 || signal == 33 then Bytes.ofNat signal
  else if signal == 29 then bytesOf "IO"
  else if signal == 34 then bytesOf "RTMIN"
  else if signal == 64 then bytesOf "RTMAX"
  else if 34 < signal && signal < 50 then bytesOf "RTMIN+" ++ Bytes.ofNat (signal - 34)
  else if 50 ≤ signal && signal < 64 then bytesOf "RTMAX-" ++ Bytes.ofNat (64 - signal)
  else (Signal.names[signal - 1]?.map bytesOf).getD (Bytes.ofNat signal)

/-- The signal that a number stands for. -/
def signalNumber? (text : Bytes) : Option Nat := (Bytes.toNat? text).filter (· < signalCount)

/-- The signal that a number or a name stands for; names count from `first` on. -/
def signal? (first : Nat) (text : Bytes) : Option Nat :=
  (signalNumber? text).or
    (((List.range signalCount).drop first).find? fun n => (signalName n).map Char.toLower == text.map Char.toLower)

/-- The jobs, the current one first. -/
def currentJobs : Sh (List Job) := return (← get).jobs.reverse

/-- The job that a text names. -/
def jobOf (name : Bytes) : Sh Job := do
  let jobs ← currentJobs
  let look (job : Option Job) (message : String) : Sh Job := match job with
    | some job => pure job
    | none => Sh.failWith message
  match name with
  | ['%'] | ['%', '+'] | ['%', '%'] => look jobs.head? "No current job"
  | ['%', '-'] => look jobs[1]? "No previous job"
  | _ =>
    match (Bytes.toNat? name.tail).bind fun n => jobs.find? (·.number == n) with
    | some job => return job
    | none => Sh.fail (bytesOf "No such job: " ++ name)

/-- The end of a program that its options have gone wrong in. -/
def killUsage {α : Type} : Sh α :=
  Sh.failWith ("Usage: kill [-s sigspec | -signum | -sigspec] [pid | job]... or\n" ++ "kill -l [exitstatus]")

/-- Names signals. -/
def listSignals : Builtin := fun args => do
  match args with
  | [] =>
    Sh.print (bytesOf "0\n")
    for n in (List.range signalCount).drop 1 do Sh.print (signalName n ++ ['\n'])
  | arg :: _ =>
    let n ← numberOf arg
    let n := if 128 < n then n - 128 else n
    if 0 < n && n < signalCount then Sh.print (signalName n ++ ['\n'])
    else Sh.fail (bytesOf "invalid signal number or exit status: " ++ arg)
  return 0

/-- Sends a signal to programs. -/
def sendSignal (signal : Nat) (targets : List Bytes) : Sh Nat := do
  let mut status := 0
  for target in targets do
    let number : Int ← match target with
      | '%' :: _ => do
        let job ← jobOf target
        pure (-(((job.members.head?.map (·.1)).getD 0 : Nat) : Int))
      | '-' :: digits => pure (-((← numberOf digits : Nat) : Int))
      | digits => pure ((← numberOf digits : Nat) : Int)
    match ← Sh.ask (.signal number signal) with
    | .ok () => pure ()
    | .error e =>
      Sh.warn (e.message ++ ['\n'])
      status := 1
  return status

def killCommand : Builtin := fun args => do
  match args with
  | [] => killUsage
  | ('-' :: name) :: rest =>
    match signal? 1 name with
    | some signal => if rest.isEmpty then killUsage else sendSignal signal rest
    | none =>
      let (options, targets) ← optionsOf "ls:" args
      let mut named := none
      for (letter, value) in options do
        if letter == 's' then
          match signal? 1 value with
          | some n => named := some n
          | none => Sh.fail (bytesOf "invalid signal number or name: " ++ value)
      match options.any (·.1 == 'l'), named with
      | true, none => listSignals targets
      | true, some _ => if targets.isEmpty then listSignals [] else killUsage
      | false, signal => if targets.isEmpty then killUsage else sendSignal (signal.getD Signal.terminate) targets
  | targets => sendSignal Signal.terminate targets

/-- Says what is to be done about a signal from now on. -/
def setTrap (signal : Nat) (action : Option Bytes) : Sh Unit := do
  modify fun s => { s with
    traps := (action.map (signal, ·)).toList ++ s.traps.filter (·.1 != signal) }
  if signal != 0 && !(← get).deafTo.contains signal then
    let _ ← Sh.ask (.provide signal (match action with
      | none => .standard
      | some [] => .ignored
      | some _ => .caught))

def trapCommand : Builtin := fun args => do
  let (_, args) ← optionsOf "" args
  match args with
  | [] =>
    let traps := (← get).traps.mergeSort fun a b => a.1 ≤ b.1
    for (signal, action) in traps do
      Sh.print (bytesOf "trap -- " ++ singleQuoted action ++ ' ' :: signalName signal ++ ['\n'])
    return 0
  | first :: rest =>
    let (action, signals) := if rest.isEmpty || (signalNumber? first).isSome then (none, first :: rest)
      else (if first == ['-'] then none else some first, rest)
    for name in signals do
      match signal? 0 name with
      | some signal => setTrap signal action
      | none =>
        Sh.complain (bytesOf "trap: " ++ name ++ bytesOf ": bad trap\n")
        return 1
    return 0

/-- Waits until a child ends or a signal is caught: the signal, if that came. -/
def waitOnce (mentions : Nat → Bool) : Sh (Option Nat) := do
  let note (child : Nat) (outcome : TaskEnd) : Sh Unit := do
    noteEnd child outcome
    if mentions child then mention outcome
  Sh.loop () fun _ => do
    match ← Sh.ask (.wait none false) with
    | .ended child outcome =>
      note child outcome
      return .inr none
    | .noChild => return .inr none
    | _ =>
      takeNote
      match (← get).caught.getLast? with
      | some signal => return .inr (some signal)
      | none =>
        match ← Sh.ask (.wait none true) with
        | .ended child outcome =>
          note child outcome
          return .inr none
        | .noChild => return .inr none
        | _ => return .inl ()

/-- Waits until a job is over, or for all of them: the signal that cut this short, if one did. -/
def waitWhile (isAwaited : Job → Bool) (mentions : Nat → Bool) : Sh (Option Nat) := do
  let signal ← Sh.loop () fun _ => do
    if !((← get).jobs.any fun job => isAwaited job && !job.isOver) then return .inr none
    match ← waitOnce mentions with
    | some signal => return .inr (some signal)
    | none => return .inl ()
  if signal.isNone then
    noteEnds
    modify fun s => { s with jobs := s.jobs.map fun job => if isAwaited job then { job with isTold := true } else job }
  return signal

def waitCommand : Builtin := fun args => do
  let (_, args) ← optionsOf "" args
  if args.isEmpty then
    return match ← waitWhile (fun _ => true) fun _ => false with
      | some signal => 128 + signal
      | none => 0
  let mut status := 127
  for arg in args do
    let job ← match arg with
      | '%' :: _ => pure (some (← jobOf arg))
      | _ =>
        let id ← numberOf arg
        pure ((← currentJobs).find? fun job => (job.members.getLast?.map (·.1)) == some id)
    match job with
    | none => pure ()
    | some job =>
      match ← waitWhile (·.number == job.number) fun child => job.members.any (·.1 == child) with
      | some signal => return 128 + signal
      | none => status := (((← get).jobs.find? (·.number == job.number)).map Job.status).getD 127
  return status

/-- How a job is doing. -/
def Job.shown (job : Job) : Bytes :=
  if !job.isOver then bytesOf "Running"
  else match job.members.getLast?.bind (·.2) with
    | some (.killed signal) => Signal.describe signal
    | some (.exited 0) | none => bytesOf "Done"
    | some (.exited status) => bytesOf "Done(" ++ Bytes.ofNat status ++ [')']

/-- Shows a job. One that is over is forgotten. -/
def showJob (options : List Char) (jobs : List Job) (job : Job) : Sh Unit := do
  let first := (job.members.head?.map (·.1)).getD 0
  if options.getLast? == some 'p' then Sh.print (Bytes.ofNat first ++ ['\n'])
  else
    let place := jobs.findIdx (·.number == job.number)
    let mark := if place == 0 then '+' else if place == 1 then '-' else ' '
    let head := '[' :: Bytes.ofNat job.number ++ bytesOf "] " ++ [mark, ' ']
    let ids := options.contains 'l'
    let line := head ++ (if ids then Bytes.ofNat first ++ [' '] else []) ++ job.shown
    let filled (text : Bytes) : Bytes := text ++ List.replicate (max (33 - text.length) 1) ' '
    let more := (job.members.drop 1).flatMap fun m =>
      if ids then bytesOf " |\n" ++ filled (List.replicate head.length ' ' ++ Bytes.ofNat m.1 ++ [' '])
      else bytesOf " | "
    Sh.print (filled line ++ more ++ ['\n'])
    if job.isOver then modify fun s => { s with jobs := s.jobs.filter (·.number != job.number) }

def jobsCommand : Builtin := fun args => do
  let (options, args) ← optionsOf "lp" args
  noteEnds
  let letters := options.map (·.1)
  if args.isEmpty then
    let jobs ← currentJobs
    for job in jobs do showJob letters jobs job
  else for arg in args do
    let job ← jobOf arg
    showJob letters (← currentJobs) job
  return 0

/-- Jobs can be brought to the front only where jobs are under control, which is nowhere. -/
def controlCommand : Builtin := fun args => do
  let (_, args) ← optionsOf "" args
  let name := args.headD ['%']
  let _ ← jobOf name
  Sh.fail (bytesOf "job " ++ (if args.isEmpty then bytesOf "(null)" else name) ++
    bytesOf " not created under job control")

end Frontier.Shell
