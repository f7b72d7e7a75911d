import Frontier.Shell.Expand

/-!
# Redirections

A redirection opens a file, or copies a descriptor. What a descriptor was before is put aside, and comes back at the
end of the command.
-/

namespace Frontier.Shell

/-- Why a command, or a file that is to be read or made, cannot be found. -/
def reason (e : Errno) (absent : String) : Bytes :=
  if e == .notFound || e == .notDirectory then bytesOf absent else e.message

/-- A redirection whose words were expanded. -/
inductive Target where
  | file (opening : Opening) (name : Bytes)
  | copy (source : Option Nat)
  | here (number : Nat)
  deriving Repr, Inhabited

/-- Expands the words of redirections. -/
def expandRedirections (r : Runner) (redirections : List Redirection) : Sh (List (Nat × Target)) :=
  redirections.mapM fun
    | .file descriptor opening name => return (descriptor, .file opening (← text r { tilde := true } name))
    | .copy descriptor source => return (descriptor, .copy source)
    | .copyNamed descriptor name => do
      match (← fields r name).head? with
      | some [c] =>
        if c.isDigit then return (descriptor, .copy (some (c.toNat - 48)))
        if c == '-' then return (descriptor, .copy none)
        Sh.failWith "Syntax error: Bad fd number"
      | some _ => Sh.failWith "Syntax error: Bad fd number"
      | none => Sh.failWith "redir error"
    | .here descriptor number => return (descriptor, .here number)

/-- Opens a file of a redirection. -/
def openTarget (opening : Opening) (name : Bytes) : Sh Nat := do
  let verb (creates : Bool) : Bytes := bytesOf (if creates then "cannot create " else "cannot open ")
  let opened (creates : Bool) (reply : Except Errno Nat) : Sh Nat := do
    match reply with
    | .ok n => return n
    | .error e =>
      Sh.fail (verb creates ++ name ++ bytesOf ": " ++ reason e (if creates then "Directory nonexistent" else "No such file"))
  let write : Access := { writes := true, creates := true, truncates := true }
  match opening with
  | .reads => opened false (← Sh.ask (.openFile name { reads := true }))
  | .readsAndWrites => opened true (← Sh.ask (.openFile name { reads := true, writes := true, creates := true }))
  | .appends => opened true (← Sh.ask (.openFile name { writes := true, creates := true, appends := true }))
  | .clobbers => opened true (← Sh.ask (.openFile name write))
  | .writes =>
    if ← Sh.option 'C' then
      match ← Sh.ask (.facts name true) with
      | .ok facts =>
        if facts.kind == .plain then opened true (.error .alreadyThere)
        else opened true (← Sh.ask (.openFile name { writes := true, creates := true }))
      | .error _ => opened true (← Sh.ask (.openFile name { write with exclusive := true }))
    else opened true (← Sh.ask (.openFile name write))

/-- How much text a pipe takes at once. -/
def documentLimit : Nat := 4096

/-- Makes the text of a here-document readable. -/
def openDocument (r : Runner) (number : Nat) : Sh Nat := do
  let document := ((← get).documents.lookup number).getD default
  let body ← if document.expands then text r { quoted := true } document.text
    else pure (Cell.text (document.text.filterMap fun
      | .plain c | .quoted c => some (.plain c)
      | _ => none))
  let (reading, writing) ← Sh.ask .makePipe
  if body.length ≤ documentLimit then
    let _ ← Sh.ask (.write writing body)
  else
    let _ ← Sh.fork do
      let _ ← Sh.ask (.close reading)
      let _ ← Sh.ask (.provide Signal.pipe .standard)
      let _ ← Sh.ask (.write writing body)
      return 0
  let _ ← Sh.ask (.close writing)
  return reading

/-- Puts aside what a descriptor is, unless that was done before. -/
def putAside (descriptor : Nat) (isTaken : Bool) : Sh Unit := do
  match (← get).saved with
  | frame :: frames =>
    if frame.any (·.1 == descriptor) then return
    let old ← if isTaken then pure none else do
      match ← Sh.ask (.duplicate descriptor 10 true) with
      | .ok copy =>
        let _ ← Sh.ask (.close descriptor)
        pure (some copy)
      | .error _ => pure none
    modify fun s => { s with saved := ((descriptor, old) :: frame) :: frames }
  | [] => pure ()

/-- Redirects descriptors. -/
def redirect (r : Runner) (puts : Bool) (targets : List (Nat × Target)) : Sh Unit := do
  for (descriptor, target) in targets do
    let aside (isTaken : Bool) : Sh Unit := if puts then putAside descriptor isTaken else pure ()
    let move (opened : Nat) : Sh Unit := do
      aside (opened == descriptor)
      if opened != descriptor then
        let _ ← Sh.ask (.replace opened descriptor)
        let _ ← Sh.ask (.close opened)
    match target with
    | .file opening name => move (← openTarget opening name)
    | .here number => move (← openDocument r number)
    | .copy none =>
      aside false
      let _ ← Sh.ask (.close descriptor)
    | .copy (some source) =>
      if source != descriptor then
        aside false
        match ← Sh.ask (.replace source descriptor) with
        | .ok _ => pure ()
        | .error e => Sh.fail (Bytes.ofNat source ++ bytesOf ": " ++ e.message)

/-- Redirects descriptors for a while; tells whether that succeeded. -/
def redirectSafely (r : Runner) (targets : List (Nat × Target)) : Sh Bool := do
  if !targets.isEmpty then modify fun s => { s with saved := [] :: s.saved }
  match ← Sh.attempt (redirect r true targets) with
  | .ok _ => return true
  | .error .error => return false
  | .error e => Sh.raise e

end Frontier.Shell
