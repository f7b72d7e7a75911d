import Frontier.Text.Quoted

/-!
# Faults

What can go wrong while a prover is driven, as causes; `message` words them. Why an error pattern cannot be read is not
told: the message quotes the pattern and ends there.
-/

namespace Frontier

/-- A failure of a command, of a session or of the settings. -/
inductive Fault where
  /-- The prover rejected a statement, with its own words. -/
  | rejected (message : String)
  /-- The process could not be started or talked to. -/
  | communication (message : String)
  /-- The expected markers did not arrive in time. -/
  | timeout (ms : Nat)
  /-- The process exited; no code when a signal ended it. -/
  | exited (code : Option Int)
  /-- No process is running. -/
  | notRunning
  /-- Another command is outstanding. -/
  | commandInFlight
  /-- The prover's state numbers contradict the log. -/
  | desync (message : String)
  /-- A recovery ended before the offset it was to reach. -/
  | stoppedShort (offset target : Nat)
  /-- The undo command has no place for the state number. -/
  | noPlaceholder (template : String)
  /-- The error pattern cannot be read. -/
  | badPattern (pattern : String)
  /-- Other faults of the settings. -/
  | settings (message : String)
  deriving DecidableEq, Repr, Inhabited

namespace Fault

/-- An exit code as shown to the host. -/
def codeText : Option Int → String
  | some code => toString code
  | none => "signal"

/-- The wording of a fault. The prover's own words are passed on as they are. -/
def message : Fault → String
  | .rejected message => message
  | .communication message => "Subprocess communication error: " ++ message
  | .timeout ms => s!"Command timed out after {ms}ms"
  | .exited code => s!"Prover process exited unexpectedly (code: {codeText code})"
  | .notRunning => "Prover session is not running"
  | .commandInFlight => "A prover command is already in flight"
  | .desync message => "Protocol desync: " ++ message
  | .stoppedShort offset target =>
    s!"Protocol desync: recovery stopped at offset {offset} before reaching {target}"
  | .noPlaceholder template =>
    "Configuration error: undo command template must contain \x7bid\x7d: " ++ Text.quoted template
  | .badPattern pattern => "Configuration error: invalid error pattern " ++ Text.quoted pattern
  | .settings message => "Configuration error: " ++ message

/-- Whether the prover may still be at work on the failed command, so that its position is not known and the
session must be started anew before it is used. -/
def losesPosition : Fault → Bool
  | .timeout _ | .communication _ | .exited _ => true
  | _ => false

end Fault
end Frontier
