/-!
# Programs

A program runs in steps, each of which does something that can be seen from outside, or nothing. It reads bytes
from its input, and writes bytes to two streams. A step takes a tick, the thousandth part of a millisecond.

What is proved about sessions holds for programs of any kind. The one kind there is, machines with a shell and tools
in them, is the surroundings that real provers live in: it lets sessions be run, and no theorem is about it.
-/

namespace Frontier

/-- A number of milliseconds in ticks. -/
def ticks (ms : Nat) : Nat := 1000 * ms

/-- The streams that a program writes to. -/
inductive Stream where
  | output
  | errors
  deriving DecidableEq, Repr, Inhabited

/-- What can be seen of a program from outside. -/
inductive Sign where
  | wrote (stream : Stream) (bytes : List UInt8)
  /-- Nothing more will come on a stream. -/
  | closed (stream : Stream)
  /-- The program has ended; without a code if a signal ended it. -/
  | ended (code : Option Int)
  deriving DecidableEq, Repr, Inhabited

/-- What is to be run, and where. -/
structure Launch where
  program : String
  args : List String
  workingDir : Option String
  /-- The home directory of the user. -/
  home : String
  deriving DecidableEq, Repr, Inhabited

/-- Why nothing can be run. -/
inductive LaunchError where
  | notFound
  | notPermitted
  | notDirectory
  | badFormat
  | holdsNul
  deriving DecidableEq, Repr, Inhabited

/-- The wording of the operating system. -/
def LaunchError.message : LaunchError → String
  | notFound => "No such file or directory (os error 2)"
  | notPermitted => "Permission denied (os error 13)"
  | notDirectory => "Not a directory (os error 20)"
  | badFormat => "Exec format error (os error 8)"
  | holdsNul => "nul byte found in provided data"

/-- A kind of programs with states `σ`. A program may go on in the background after it has ended. -/
class Program (σ : Type) where
  /-- Launches a program at a moment. -/
  launch : Launch → Nat → Except LaunchError σ
  /-- The moment of the next step; none if the program waits for something from outside. -/
  due? : σ → Option Nat
  /-- The next step, at a moment. -/
  step : Nat → σ → List Sign × σ
  /-- Whether it holds its input open. -/
  listens : σ → Bool
  /-- How many bytes its input takes before they are read. -/
  room : σ → Nat
  /-- Gives it input. -/
  feed : List UInt8 → σ → σ
  /-- Tells it that no more input will come. -/
  endInput : σ → σ
  /-- Nobody reads a stream any more. -/
  ignore : Stream → σ → σ
  /-- Ends it by force. -/
  kill : σ → List Sign × σ

end Frontier
