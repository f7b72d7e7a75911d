import Frontier.Machine.Bytes

/-!
# Signals

A signal is known by its number and by its name. What it does to a program that has made no provision depends on
the signal.
-/

namespace Frontier.Signal

/-- The names of signals in the order of their numbers, from 1 on. -/
def names : List String :=
  ["HUP", "INT", "QUIT", "ILL", "TRAP", "ABRT", "BUS", "FPE", "KILL", "USR1", "SEGV", "USR2", "PIPE", "ALRM",
    "TERM", "STKFLT", "CHLD", "CONT", "STOP", "TSTP", "TTIN", "TTOU", "URG", "XCPU", "XFSZ", "VTALRM", "PROF",
    "WINCH", "POLL", "PWR", "SYS"]

def hangup : Nat := 1
def interrupt : Nat := 2
def quit : Nat := 3
def kill : Nat := 9
def segfault : Nat := 11
def pipe : Nat := 13
def terminate : Nat := 15
def child : Nat := 17
def resume : Nat := 18
def stop : Nat := 19

/-- What a signal does by itself. -/
inductive Action where
  | ends
  | nothing
  | stops
  | continues
  deriving DecidableEq, Repr, Inhabited

/-- What a signal does to a program that has made no provision. -/
def action (signal : Nat) : Action :=
  if signal == resume then .continues
  else if [child, 23, 28].contains signal then .nothing
  else if [stop, 20, 21, 22].contains signal then .stops
  else .ends

/-- Whether a program can make provision for a signal. -/
def isTamable (signal : Nat) : Bool := signal != kill && signal != stop

/-- How a signal is described. -/
def descriptions : List String :=
  ["Hangup", "Interrupt", "Quit", "Illegal instruction", "Trace/breakpoint trap", "Aborted", "Bus error",
    "Floating point exception", "Killed", "User defined signal 1", "Segmentation fault", "User defined signal 2",
    "Broken pipe", "Alarm clock", "Terminated", "Stack fault", "Child exited", "Continued", "Stopped (signal)",
    "Stopped", "Stopped (tty input)", "Stopped (tty output)", "Urgent I/O condition", "CPU time limit exceeded",
    "File size limit exceeded", "Virtual timer expired", "Profiling timer expired", "Window changed",
    "I/O possible", "Power failure", "Bad system call"]

/-- The description of a signal. -/
def describe (signal : Nat) : Bytes :=
  match (if signal == 0 then none else descriptions[signal - 1]?) with
  | some text => bytesOf text
  | none =>
    if 34 ≤ signal && signal ≤ 64 then bytesOf "Real-time signal " ++ Bytes.ofNat (signal - 34)
    else bytesOf "Unknown signal " ++ Bytes.ofNat signal

end Frontier.Signal
