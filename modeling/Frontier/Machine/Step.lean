import Frontier.Machine.Serve

/-!
# Steps of a machine

A step belongs to the program whose call can be answered first. Reading waits for bytes, writing to a pipe for
room, and waiting for a child for its end; a signal that is caught cuts the waiting short.
-/

namespace Frontier

/-- The routines of programs, by name, arguments and environment. -/
abbrev Loader := String → List Bytes → List (Bytes × Bytes) → Routine

namespace Machine

variable (m : Machine)

/-- Up to how many bytes are written to a pipe in one piece. -/
def pieceLimit : Nat := 4096

/-- Whether a caught signal cuts a call short. -/
def isInterruptible : SystemCall → Bool
  | .read .. | .wait .. | .rest .. => true
  | _ => false

/-- Whether a call of a program can be answered now. -/
def isReady (t : Task) : SystemCall → Bool
  | .read d _ =>
    match m.target? t d with
    | some (.pipe n false) => 0 < (m.pipe n).size || !m.hasWriter n
    | _ => true
  | .write d bytes =>
    match m.target? t d with
    | some (.pipe n true) =>
      let room := (m.pipe n).room
      !m.hasReader n || (if bytes.length ≤ pieceLimit then bytes.length ≤ room else 0 < room)
    | _ => true
  | .wait child blocks =>
    let children := m.awaited t child
    !blocks || children.isEmpty || children.any (·.outcome.isSome)
  | _ => true

/-- The moment at which a program can go on, if nothing else has to happen before. -/
def dueOf? (t : Task) : Option Nat :=
  if t.outcome.isSome then none
  else if let some (moment, _) := t.doom then some (max moment m.clock)
  else if t.stopped then none
  else match t.routine with
    | .done _ => none
    | .fork .. => some (max t.wake m.clock)
    | .ask call _ =>
      if t.roused && isInterruptible call then some m.clock
      else if m.isReady t call then some (max t.wake m.clock)
      else none

/-- The program that goes on first, and when. -/
def next? : Option (Nat × Task) :=
  m.tasks.foldl (fun best t =>
    match m.dueOf? t, best with
    | none, _ => best
    | some moment, none => some (moment, t)
    | some moment, some (soonest, u) => if moment < soonest then some (moment, t) else some (soonest, u)) none

/-! ## Answers to calls that take time -/

/-- A part of a plain file. -/
def slice (content : Bytes) (offset count : Nat) : Bytes := (content.drop offset).take count

/-- Bytes written over a content at an offset. -/
def overwrite (content : Bytes) (offset : Nat) (bytes : Bytes) : Bytes :=
  content.take offset ++ List.replicate (offset - content.length) '\x00' ++ bytes ++
    content.drop (offset + bytes.length)

/-- Reads. -/
def readFrom (t : Task) (d count : Nat) : Machine × Except Errno Bytes :=
  match m.handleOf? t d with
  | none => (m, .error .badDescriptor)
  | some (number, h) =>
    match h.target with
    | .pipe n false =>
      let (bytes, rest) := (m.pipe n).take count
      if bytes.isEmpty && count != 0 && m.hasWriter n then (m, .error .interrupted)
      else (m.setPipe n rest, .ok bytes)
    | .pipe _ true | .stream _ => (m, .error .badDescriptor)
    | .device .null | .device .absent => (m, .ok [])
    | .device _ => (m, .ok (List.replicate count '\x00'))
    | .directory _ => (m, .error .isDirectory)
    | .file n a =>
      if a.reads then
        let bytes := slice (m.files.content n) h.offset count
        (m.setHandle number { h with offset := h.offset + bytes.length }, .ok bytes)
      else (m, .error .badDescriptor)

/-- What a write has come to: it is answered, or a part is still to be written. -/
inductive Written where
  | answered (reply : Except Errno Nat)
  | more (rest : Bytes)

/-- Nobody reads what a program writes. -/
def refuse (t : Task) : Machine × Written := (m.deliver t.id t.id Signal.pipe, .answered (.error .brokenPipe))

/-- Writes. -/
def writeTo (t : Task) (d : Nat) (bytes : Bytes) : Machine × Written :=
  match m.handleOf? t d with
  | none => (m, .answered (.error .badDescriptor))
  | some (number, h) =>
    match h.target with
    | .stream s =>
      if m.unheard.contains s then m.refuse t
      else if bytes.isEmpty then (m, .answered (.ok 0))
      else (m.shows (.wrote s (released bytes)), .answered (.ok bytes.length))
    | .pipe n true =>
      if !m.hasReader n then m.refuse t
      else
        let now := bytes.take (m.pipe n).room
        let rest := bytes.drop now.length
        (m.setPipe n ((m.pipe n).push now), if rest.isEmpty then .answered (.ok bytes.length) else .more rest)
    | .pipe _ false | .directory _ => (m, .answered (.error .badDescriptor))
    | .device .full => (m, .answered (.error .noSpace))
    | .device _ => (m, .answered (.ok bytes.length))
    | .file n a =>
      if a.writes then
        let content := m.files.content n
        let offset := if a.appends then content.length else h.offset
        let m := { m with files := m.files.setContent n (overwrite content offset bytes) }
        (m.setHandle number { h with offset := offset + bytes.length }, .answered (.ok bytes.length))
      else (m, .answered (.error .badDescriptor))

/-- The program that a path leads to, and its arguments; scripts name the program that reads them. -/
def programAt (place : Path) (path : Bytes) (args : List Bytes) : Except Errno (String × List Bytes) := do
  let (_, e) ← m.files.locate place path true
  match e.node with
  | .program name => return (name, args)
  | .file n =>
    if e.mode % 2 == 0 && e.mode / 64 % 2 == 0 then throw .accessDenied
    match m.files.content n with
    | '#' :: '!' :: rest =>
      let line := (rest.takeWhile (· != '\n')).dropWhile fun c => c == ' ' || c == '\t'
      let name := line.takeWhile fun c => c != ' ' && c != '\t'
      let option := (line.drop name.length).dropWhile fun c => c == ' ' || c == '\t'
      let (_, e) ← m.files.locate place name true
      match e.node with
      | .program program => return (program, name :: (if option.isEmpty then [] else [option]) ++ path :: args.tail)
      | _ => throw .accessDenied
    | _ => throw .badFormat
  | _ => throw .accessDenied

/-- Another program takes over. -/
def takeOver (load : Loader) (t : Task) (name : String) (args : List Bytes) (environment : List (Bytes × Bytes)) :
    Machine :=
  let m := m.update t.id fun t =>
    { t with
      descriptors := t.descriptors.filter fun d => !d.2.isPrivate
      provisions := t.provisions.filter (·.2 == .ignored)
      caught := [] }
  settle t.id m.tidy (load name args environment)

/-- A child goes its own way: it has what its parent has. -/
def divide (t : Task) (child : Routine) : Machine × Nat :=
  let id := m.nextTask
  let m := { m with
    nextTask := id + 1
    tasks := m.tasks ++ [{ t with id, parent := t.id, routine := .done 0, caught := [], roused := false, doom := none }] }
  (settle id m child, id)

/-- A program goes on after a call, if it is still there. -/
def resume (t : Task) (rest : Routine) : Machine := if m.lives t.id then settle t.id m rest else m

/-- The next thing that a program does. -/
def act (load : Loader) (t : Task) : Machine :=
  if let some (_, signal) := t.doom then m.finish t.id (.killed signal)
  else match t.routine with
  | .fork child next =>
    let (m, id) := m.divide t child
    settle t.id m (next id)
  | .ask (.read d count) next =>
    let (m, reply) := m.readFrom t d count
    m.resume t (next reply)
  | .ask (.write d bytes) next =>
    match m.writeTo t d bytes with
    | (m, .answered reply) => m.resume t (next reply)
    | (m, .more rest) =>
      let written := bytes.length - rest.length
      m.resume t (.ask (.write d rest) fun reply => next (reply.map (· + written)))
  | .ask (.wait child blocks) next =>
    let (m, reply) := m.waitFor t child blocks
    m.resume t (next reply)
  | .ask (.rest _) next => m.resume t (next ())
  | .ask (.work _) next => m.resume t (next ())
  | .ask (.run path args environment) next =>
    match m.programAt t.place path args with
    | .ok (name, args) => m.takeOver load t name args environment
    | .error e => m.resume t (next e)
  | _ => m

/-- What happens in a machine, as it is seen from outside. -/
def watched (happens : Machine → Machine) : List Sign × Machine :=
  let after := happens m
  let closed := [Stream.output, Stream.errors].filter fun s => m.speaks s && !after.speaks s
  let outcome := (after.task? firstTask).bind (·.outcome)
  let ended := if m.lives firstTask then outcome.map fun
      | .exited status => Sign.ended (some status)
      | .killed _ => Sign.ended none
    else none
  (after.signs.reverse ++ closed.map Sign.closed ++ ended.toList, { after with signs := [] })

/-- One step, at a moment. -/
def step (load : Loader) (moment : Nat) : List Sign × Machine :=
  m.watched fun m =>
    let m := { m with clock := moment }
    match m.next? with
    | none => m
    | some (_, t) => m.act load t

end Machine
end Frontier
