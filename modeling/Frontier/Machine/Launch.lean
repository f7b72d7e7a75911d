import Frontier.Machine.Step
import Frontier.Shell.Start
import Frontier.Tool.Table

/-!
# Launching machines

A machine is launched with one program in it: a shell or a tool. Its input is a pipe, and so are the two streams that
it writes to.
-/

namespace Frontier
namespace Machine

/-- The names of shells. -/
def shells : List String := ["bash", "dash", "sh"]

/-- The names of programs. -/
def programs : List String := shells ++ Tool.table.map (·.1)

/-- The routine of a program. -/
def load : Loader := fun name args environment =>
  if shells.contains name then Shell.routine (args.headD []) args.tail environment
  else match Tool.table.lookup name with
    | some tool => (tool ⟨args.headD [], args.tail, environment⟩).routine
    | none => .done 127

/-- What a program finds in its environment. -/
def environment (home : String) : List (Bytes × Bytes) :=
  [(bytesOf "HOME", bytesOf home), (bytesOf "PATH", Shell.standardPath)]

/-- How long it takes until a program runs. -/
def startTime : Nat := 500

/-- The program that a launch means, as seen from a directory. -/
def programOf (files : Files) (dir : Path) (program : Bytes) : Except LaunchError String := do
  let at? (path : Bytes) : Except LaunchError String :=
    match files.find dir path true with
    | .error .notDirectory => .error .notDirectory
    | .error _ | .ok (_, none) => .error .notFound
    | .ok (_, some e) =>
      match e.node with
      | .program name => .ok name
      | _ => .error .notPermitted
  if program.contains '/' then at? program
  else if program.isEmpty then throw .notFound
  else
    let found := (Bytes.split ':' Shell.standardPath).map fun d => at? (Shell.inDirectory d program)
    match found.find? Except.toBool with
    | some name => name
    | none => if found.any (fun e => match e with
        | .error .notPermitted => true
        | _ => false) then throw .notPermitted else throw .notFound

/-- Finds a program and starts it. -/
def launch (l : Launch) (moment : Nat) : Except LaunchError Machine := do
  let program := bytesOf l.program
  let args := l.args.map bytesOf
  let dir := (l.workingDir.map bytesOf).getD ['/']
  if (program ++ dir ++ args.flatten).contains '\x00' then throw .holdsNul
  let files := Files.initial programs
  let place ← match files.find [] dir true with
    | .error .notDirectory => throw .notDirectory
    | .error _ | .ok (_, none) => throw .notFound
    | .ok (there, some e) => if e.node == .directory then pure there else throw .notDirectory
  let name ← programOf files place program
  let first : Task := {
    id := firstTask, parent := firstTask - 11
    routine := .ask (.work startTime) fun _ => load name (program :: args) (environment l.home)
    wake := moment + startTime, descriptors := (List.range 3).map fun n => (n, ⟨n, false⟩), place }
  return {
    clock := moment, tasks := [first], files
    handles := [(0, ⟨.pipe inputPipe false, 0⟩), (1, ⟨.stream .output, 0⟩), (2, ⟨.stream .errors, 0⟩)]
    pipes := [(inputPipe, {})], fresh := 3, nextTask := firstTask + 1 }

instance : Program Machine where
  launch := launch
  due? m := m.next?.map (·.1)
  step moment m := m.step load moment
  listens m := m.hasReader inputPipe
  room m := (m.pipe inputPipe).room
  feed bytes m := m.setPipe inputPipe ((m.pipe inputPipe).push (received bytes))
  endInput m := { m with inputOpen := false }
  ignore s m := { m with unheard := s :: m.unheard }
  kill m := m.watched fun m => m.finish firstTask (.killed Signal.kill)

end Machine
end Frontier
