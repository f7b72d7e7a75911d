import Frontier.Shell.Builtin.Print

/-!
# Reading a line

`read` takes one line from the input, a byte at a time so that nothing after it is lost, and cuts it into variables.
A backslash quotes the next character and joins lines.
-/

namespace Frontier.Shell

/-- A line that is being read. -/
structure LineRead where
  e : Expanding := {}
  /-- Where the part that may be cut begins. -/
  start : Nat := 0
  /-- Whether a backslash was read last. -/
  isQuoting : Bool := false
  deriving Inhabited

/-- Ends the part that may be cut. -/
def LineRead.settle (l : LineRead) : Expanding := l.e.note l.start false

/-- Reads up to the end of a line; the flag tells whether it was there. -/
def readLine (raw : Bool) : Sh (Expanding × Bool) :=
  Sh.loop ({} : LineRead) fun l => do
    match ← Sh.ask (.read 0 1) with
    | .ok [c] =>
      if c == '\x00' then return .inl l
      if l.isQuoting then
        if c == '\n' then return .inl { l with start := l.e.size, isQuoting := false }
        let e := l.e.push (.quoted c)
        return .inl { e, start := e.size, isQuoting := false }
      if c == '\\' && !raw then return .inl { l with e := l.settle, isQuoting := true }
      if c == '\n' then return .inr (l.settle, true)
      return .inl { l with e := l.e.push (.plain c) }
    | .error .interrupted =>
      takeNote
      if (← get).caught.any fun signal => signal != Signal.child then return .inr (l.settle, false) else return .inl l
    | _ => return .inr (if l.isQuoting then l.e else l.settle, false)

/-- Sets variables to the fields of a line; the last one takes what is left. -/
def assignFields : List Bytes → List Bytes → Sh Unit
  | [], _ => pure ()
  | name :: names, fields => do
    Sh.assign name (fields.headD [])
    assignFields names fields.tail

def readCommand : Builtin := fun args => do
  let (options, names) ← optionsOf "p:r" args
  if names.isEmpty then Sh.failWith "arg count"
  let (e, whole) ← readLine (options.any (·.1 == 'r'))
  let fields := Fields.cut (← separators) (some names.length) e.cells.reverse e.regions.reverse
  assignFields names (fields.map Cell.text)
  return if whole then 0 else 1

end Frontier.Shell
