import Frontier.Marker

/-!
# The undo log

One undo command restores any earlier state of the prover by its number, so the log keeps, for each executed
statement, the number of the state before it. The log may be trusted only while every acknowledged statement
has raised the state number. The first observation that breaks this puts the log out of order, with the reason;
it then stays as it is until it is begun anew.
-/

namespace Frontier

/-- Why an undo log may no longer be trusted. -/
inductive Disorder where
  /-- A statement was acknowledged while another one was awaited. -/
  | outOfTurn (index awaited : Nat)
  /-- A statement was acknowledged that was not announced. -/
  | unannounced (index : Nat)
  /-- A statement was acknowledged that is not the one after the last. -/
  | misplaced (index size : Nat)
  /-- The state number did not rise. -/
  | notRising (previous next : Nat)
  /-- A batch was answered with another number of markers. -/
  | batchCount (statements markers : Nat)
  /-- A batch does not begin after the last statement. -/
  | batchMisplaced (index size : Nat)
  /-- An undo kept more statements than there are. -/
  | undoBeyond (kept size : Nat)
  /-- The log and the count of executed statements differ. -/
  | countMismatch (size executed : Nat)
  /-- A statement was accepted without a marker. -/
  | noMarker (index : Nat)
  /-- A command failed so that the prover's position is not known. -/
  | positionLost (cause : String)
  /-- Declared by the caller. -/
  | declared (reason : String)
  deriving DecidableEq, Repr

/-- The wording of a reason. -/
def Disorder.message : Disorder → String
  | .outOfTurn index awaited => s!"statement {index} acknowledged while {awaited} was pending"
  | .unannounced index => s!"statement {index} acknowledged without a captured pre-state"
  | .misplaced index size => s!"statement index {index} does not extend mapping of length {size}"
  | .notRising previous next => s!"sequence id did not increase ({previous} -> {next})"
  | .batchCount statements markers => s!"batch of {statements} statements produced {markers} markers"
  | .batchMisplaced index size => s!"batch start {index} does not extend mapping of length {size}"
  | .undoBeyond kept size => s!"undo to {kept} statements exceeds mapping of length {size}"
  | .countMismatch size executed => s!"tracker holds {size} statements but {executed} are proved"
  | .noMarker index => s!"statement {index} acknowledged without a marker"
  | .positionLost cause => s!"prover position unknown after: {cause}"
  | .declared reason => reason

/-- The states that the prover passed through, by number. -/
structure UndoLog where
  /-- The state that the session began in. -/
  initial : Nat
  /-- The state after the last executed statement. -/
  current : Nat
  /-- The state before each executed statement, in order. -/
  before : List Nat := []
  /-- The statement announced but not yet acknowledged, with the state before it. -/
  awaited : Option (Nat × Nat) := none
  disorder : Option Disorder := none
  deriving DecidableEq, Repr, Inhabited

namespace UndoLog

/-- The log of a session that begins in a state. -/
def startingAt (initial : Nat) : UndoLog := { initial, current := initial }

/-- The log of a session that begins in the same state as this one. -/
def reset (l : UndoLog) : UndoLog := startingAt l.initial

/-- Whether the log may be trusted. -/
def valid (l : UndoLog) : Bool := l.disorder.isNone

/-- How many executed statements the log holds. -/
def size (l : UndoLog) : Nat := l.before.length

/-- Puts the log out of order; the first reason stands. -/
def invalidate (l : UndoLog) (reason : Disorder) : UndoLog :=
  if l.valid then { l with disorder := some reason, awaited := none } else l

/-- Announces statement `index`, which will start from the current state. -/
def announce (l : UndoLog) (index : Nat) : UndoLog :=
  if l.valid then { l with awaited := some (index, l.current) } else l

/-- Records that statement `index` was acknowledged by a marker with number `id`; says whether it was in order. -/
def acknowledge (l : UndoLog) (index id : Nat) : UndoLog × Bool :=
  if !l.valid then (l, false)
  else
    let taken := { l with awaited := none }
    match l.awaited with
    | none => (taken.invalidate (.unannounced index), false)
    | some (announced, state) =>
      if announced ≠ index then (taken.invalidate (.outOfTurn index announced), false)
      else if index ≠ l.size then (taken.invalidate (.misplaced index l.size), false)
      else if id ≤ state then (taken.invalidate (.notRising state id), false)
      else ({ taken with before := l.before ++ [state], current := id }, true)

/-- The states before each of a run of statements that end in the states `ids`; an error names the first that
does not rise. -/
def climb (state : Nat) : List Nat → Except Disorder (List Nat × Nat)
  | [] => .ok ([], state)
  | id :: rest =>
    if id ≤ state then .error (.notRising state id)
    else (climb id rest).map fun (states, last) => (state :: states, last)

/-- Records that `count` statements from `index` on were acknowledged by markers with the numbers `ids`: all of
them, or none. -/
def acknowledgeBatch (l : UndoLog) (index count : Nat) (ids : List Nat) : UndoLog × Bool :=
  if !l.valid then (l, false)
  else
    let taken := { l with awaited := none }
    if ids.length ≠ count then (taken.invalidate (.batchCount count ids.length), false)
    else if index ≠ l.size then (taken.invalidate (.batchMisplaced index l.size), false)
    else match climb l.current ids with
      | .error reason => (taken.invalidate reason, false)
      | .ok (states, last) => ({ taken with before := l.before ++ states, current := last }, true)

/-- The state to restore in order to keep `target` of `executed` statements; a negative target undoes all of
them. There is none for a step that does not go back. -/
def undoTarget? (l : UndoLog) (executed : Nat) (target : Int) : Option Nat :=
  if !l.valid then none
  else if target < 0 then some l.initial
  else if target.toNat < executed then l.before[target.toNat]? else none

/-- Records that an undo left `kept` statements and the state `id`, which is believed even if another one was
expected. -/
def undone (l : UndoLog) (kept id : Nat) : UndoLog :=
  if !l.valid then l
  else
    let taken := { l with awaited := none }
    if l.size < kept then taken.invalidate (.undoBeyond kept l.size)
    else { taken with before := l.before.take kept, current := id }

/-- The state before statement `index`. -/
def stateBefore? (l : UndoLog) (index : Nat) : Option Nat := l.before[index]?

/-- What a host may see of an undo log. -/
structure Snapshot where
  current : Nat
  before : List Nat
  valid : Bool
  reason : Option String
  deriving DecidableEq, Repr, Inhabited

/-- What the log shows now. -/
def snapshot (l : UndoLog) : Snapshot :=
  ⟨l.current, l.before, l.valid, l.disorder.map (·.message)⟩

end UndoLog
end Frontier
