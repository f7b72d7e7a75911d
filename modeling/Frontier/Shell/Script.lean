import Frontier.Shell.Job

/-!
# Running scripts

A script is a text, or it comes from a descriptor. One line of commands is read and run before the next one is read,
so that what it changes holds for the next.
-/

namespace Frontier.Shell

/-- How much of a script is read at once. -/
def scriptBlock : Nat := 8192

/-- Reads the next line of commands; more of the script comes from a descriptor, if there is one. -/
def nextLine (descriptor : Option Nat) (p : Parsing) : Sh (Parsed × Parsing) :=
  Sh.loop p fun p => do
    let s ← get
    let begun := { p with aliases := s.aliases, nextDocument := s.nextDocument, documents := [] }
    match begun.nextCommands with
    | .ok (parsed, after) =>
      set { s with documents := after.documents ++ s.documents, nextDocument := after.nextDocument }
      if descriptor.isSome && s.options.contains 'v' then
        Sh.complain (begun.text.take (begun.text.length - after.text.length))
      return .inr (parsed, after)
    | .error (.wrong message line) =>
      modify fun s => { s with errorLine := line }
      Sh.fail message
    | .error .incomplete =>
      match descriptor with
      | none => return .inl { p with isWhole := true }
      | some d =>
        match ← Sh.ask (.read d scriptBlock) with
        | .ok [] => return .inl { p with isWhole := true }
        | .ok bytes => return .inl { p with text := p.text ++ bytes }
        | .error .interrupted => return .inl p
        | .error _ => return .inl { p with isWhole := true }

/-- Runs a script to its end, or until something is to be passed over. The status is that of the last line with
commands. -/
def runScript (run : Manner → Tree → Sh Nat) (m : Manner) (descriptor : Option Nat) (script : Parsing) : Sh Nat :=
  Sh.loop (script, 0) fun (p, status) => do
    match ← nextLine descriptor p with
    | (.finished, _) => return .inr status
    | (.commands tree, p) =>
      let result ← run { m with isLast := m.isLast && p.atEnd } tree
      let status := match tree with
        | .nothing => status
        | _ => result
      if (← get).skip == .nothing then return .inl (p, status) else return .inr status

/-- Runs a text. -/
def runWhole (run : Manner → Tree → Sh Nat) (m : Manner) (text : Bytes) : Sh Nat := runScript run m none { text }

/-- Runs what comes from a descriptor. A `return` outside a function ends the script and nothing else. -/
def runFrom (run : Manner → Tree → Sh Nat) (descriptor : Nat) : Sh Nat := do
  let status ← runScript run {} (some descriptor) { text := [], isWhole := false }
  modify fun s => { s with skip := match s.skip with
    | .return _ => .nothing
    | skip => skip }
  return status

/-- Opens a script; its descriptor is out of the way of the script's own. -/
def openScript (name : Bytes) : Sh Nat := do
  match ← Sh.ask (.openFile name { reads := true }) with
  | .error e => Sh.fail (bytesOf "cannot open " ++ name ++ bytesOf ": " ++
      (if e == .notFound || e == .notDirectory then bytesOf "No such file" else e.message))
  | .ok d =>
    if 10 ≤ d then return d
    match ← Sh.ask (.duplicate d 10 true) with
    | .ok copy =>
      let _ ← Sh.ask (.close d)
      return copy
    | .error _ => return d

/-- Answers the signals that have come: runs what their traps say. The status stays what it was. -/
def answerSignals (r : Runner) : Sh Unit := do
  takeNote
  let s ← get
  if s.caught.isEmpty then return
  let status := s.asked.getD s.status
  set { s with asked := some status }
  for signal in s.caught.mergeSort (· ≤ ·) do
    if (← get).skip == .nothing then
      modify fun s => { s with caught := s.caught.filter (· != signal) }
      match (← get).traps.lookup signal with
      | some (c :: action) =>
        let _ ← r.runText {} (c :: action)
        if (← get).skip != .return true then modify fun s => { s with status }
      | _ => pure ()
  modify fun t => { t with asked := s.asked }

end Frontier.Shell
