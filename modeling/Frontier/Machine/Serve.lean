import Frontier.Machine.Basic

/-!
# Calls that take no time

Most of what a program asks for is answered at once. What may have to wait, or takes time by itself, is left for
a step of its own.
-/

namespace Frontier.Machine

variable (m : Machine)

/-- What is known of a file that is open. -/
def factsOf (h : Handle) : FileFacts :=
  match h.target with
  | .pipe n _ => ⟨.pipe, 0o600, 0, 2000000 + n⟩
  | .stream .output => ⟨.pipe, 0o600, 0, 3000001⟩
  | .stream .errors => ⟨.pipe, 0o600, 0, 3000002⟩
  | .device .null => ⟨.device, 0o666, 0, m.files.entries.findIdx (·.2.node == .device .null) + 1⟩
  | .device _ => ⟨.device, 0o666, 0, 3000003⟩
  | .file n _ => ⟨.plain, 0o644, (m.files.content n).length, 1000000 + n⟩
  | .directory p => m.files.facts p ⟨.directory, 0o755⟩

/-- What is known of the file at a path. -/
def facts (t : Task) (path : Bytes) (follows : Bool) : Except Errno FileFacts := do
  let (there, e) ← m.files.locate t.place path follows
  match e.node with
  | .descriptor n =>
    match m.handleOf? t n with
    | some (_, h) => return m.factsOf h
    | none => throw .notFound
  | _ => return m.files.facts there e

/-- Opens a file. -/
def openFile (t : Task) (path : Bytes) (a : Access) : Except Errno (Machine × Nat) := do
  let (there, found) ← m.files.find t.place path true
  match found with
  | none =>
    if !a.creates then throw .notFound
    if path.getLast? == some '/' then throw .isDirectory
    let (files, number) := m.files.create there []
    return ({ m with files } : Machine).install t ⟨.file number a, 0⟩
  | some e =>
    if a.creates && a.exclusive then throw .alreadyThere
    match e.node with
    | .directory => if a.writes then throw .isDirectory else return m.install t ⟨.directory there, 0⟩
    | .program _ => if a.writes then throw .accessDenied else return m.install t ⟨.device .null, 0⟩
    | .device .absent => throw .noDeviceHere
    | .device d => return m.install t ⟨.device d, 0⟩
    | .descriptor n =>
      match m.handleOf? t n with
      | none => throw .notFound
      | some (_, h) =>
        match h.target with
        | .file number _ =>
          let m := if a.truncates && a.writes then { m with files := m.files.setContent number [] } else m
          return m.install t ⟨.file number a, 0⟩
        | .pipe number _ => return m.install t ⟨.pipe number a.writes, 0⟩
        | target => return m.install t ⟨target, 0⟩
    | .link _ => throw .tooManyLinks
    | .file number =>
      let m := if a.truncates && a.writes then { m with files := m.files.setContent number [] } else m
      return m.install t ⟨.file number a, 0⟩

/-- Who a signal is sent to. -/
def targets (t : Task) (target : Int) : List Nat :=
  let living := (m.tasks.filter (·.outcome.isNone)).map (·.id)
  if target < -1 then []
  else if target == -1 then living.filter (· != t.id)
  else if target == 0 then living
  else (m.tasks.filter fun u => (u.id : Int) == target).map (·.id)

/-- The children of a program that a call waits for. -/
def awaited (t : Task) (child : Option Nat) : List Task :=
  m.tasks.filter fun u => u.parent == t.id && child.all (· == u.id)

/-- Waits for a child. -/
def waitFor (t : Task) (child : Option Nat) (blocks : Bool) : Machine × Waited :=
  let children := m.awaited t child
  match children.find? (·.outcome.isSome) with
  | some u =>
    match u.outcome with
    | some outcome => ({ m with tasks := m.tasks.filter (·.id != u.id) }, .ended u.id outcome)
    | none => (m, .nothing)
  | none =>
    if children.isEmpty then (m, .noChild)
    else if blocks then (m, .interrupted)
    else (m, .nothing)

/-- Answers a call that takes no time; no answer for the others. -/
def serve (t : Task) : (call : SystemCall) → Option (Machine × call.Reply)
  | .openFile path access =>
    match m.openFile t path access with
    | .ok (m, n) => some (m, .ok n)
    | .error e => some (m, .error e)
  | .close d =>
    if t.descriptors.any (·.1 == d) then some (m.dropDescriptor t.id d, .ok ()) else some (m, .error .badDescriptor)
  | .duplicate d low isPrivate =>
    match t.descriptors.lookup d with
    | none => some (m, .error .badDescriptor)
    | some old =>
      let n := Task.freeDescriptor t low
      some (m.setDescriptor t.id n ⟨old.handle, isPrivate⟩, .ok n)
  | .replace d target =>
    match t.descriptors.lookup d with
    | none => some (m, .error .badDescriptor)
    | some old =>
      if d == target then some (m, .ok ())
      else some ((m.setDescriptor t.id target ⟨old.handle, false⟩).tidy, .ok ())
  | .makePipe =>
    let number := m.fresh
    let m := { m with fresh := m.fresh + 1, pipes := (m.fresh, {}) :: m.pipes }
    let (m, reading) := m.install t ⟨.pipe number false, 0⟩
    let t := (m.task? t.id).getD t
    let (m, writing) := m.install t ⟨.pipe number true, 0⟩
    some (m, (reading, writing))
  | .signal target number =>
    match m.targets t target with
    | [] => some (m, .error .noProcess)
    | ids => some (ids.foldl (fun m id => m.deliver t.id id number) m, .ok ())
  | .provide signal provision =>
    some (m.update t.id fun t =>
      { t with provisions := (signal, provision) :: t.provisions.filter (·.1 != signal) }, ())
  | .provision signal => some (m, (t.provisions.lookup signal).getD .standard)
  | .caught => some (m.update t.id fun t => { t with caught := [], roused := false }, t.caught)
  | .moment => some (m, m.clock)
  | .identity => some (m, (t.id, t.parent))
  | .facts path follows => some (m, m.facts t path follows)
  | .factsOf d =>
    match m.handleOf? t d with
    | some (_, h) => some (m, .ok (m.factsOf h))
    | none => some (m, .error .badDescriptor)
  | .entries path =>
    match m.files.locate t.place path true with
    | .error e => some (m, .error e)
    | .ok (there, e) =>
      some (m, if e.node == .directory then .ok (m.files.names there) else .error .notDirectory)
  | .readLink path =>
    match m.files.locate t.place path false with
    | .error e => some (m, .error e)
    | .ok (_, e) => some (m, match e.node with
        | .link target => .ok target
        | _ => .error .invalid)
  | .directory => some (m, .ok (Files.pathText t.place))
  | .enter path =>
    match m.files.locate t.place path true with
    | .error e => some (m, .error e)
    | .ok (there, e) =>
      if e.node == .directory then some (m.update t.id fun t => { t with place := there }, .ok ())
      else some (m, .error .notDirectory)
  | .wait child false => some (m.waitFor t child false)
  | .change c =>
    match m.files.change t.place c with
    | .ok files => some ({ m with files }, .ok ())
    | .error e => some (m, .error e)
  | _ => none

/-- How many ticks a call takes before it is answered. -/
def duration : Routine → Nat
  | .fork .. => 150
  | .ask (.run ..) _ => 300
  | .ask (.rest n) _ => max n 1
  | .ask (.work n) _ => max n 1
  | _ => 1

/-- Lets a program go on, until it stands before something that takes time, or ends. -/
def settle (id : Nat) : Machine → Routine → Machine
  | m, .done status => if m.lives id then m.finish id (.exited status) else m
  | m, .fork child next =>
    m.update id fun t => { t with routine := .fork child next, wake := m.clock + duration (.fork child next), roused := false }
  | m, .ask call next =>
    match m.task? id with
    | none => m
    | some t =>
      if t.outcome.isSome then m
      else match m.serve t call with
        | some (m, reply) => if m.lives id then settle id m (next reply) else m
        | none => m.update id fun t =>
          { t with routine := .ask call next, wake := m.clock + duration (.ask call next), roused := false }

end Frontier.Machine
