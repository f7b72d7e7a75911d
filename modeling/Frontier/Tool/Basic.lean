import Frontier.Machine.Routine

/-!
# Tools

Small programs that read files, or their input, and print. This is what they have in common: options, messages,
reading by blocks and by lines, and printing by blocks.

Tools are what scripts in a machine call, and only serve to run sessions; no theorem is about them.
-/

namespace Frontier
namespace Tool

/-- What a tool is given: the name it was called by, its arguments, and its environment. -/
structure Invocation where
  name : Bytes
  args : List Bytes
  environment : List (Bytes × Bytes) := []
  deriving Repr, Inhabited

/-! ## Printing -/

/-- Writes all bytes to a descriptor. -/
def writeAll (descriptor : Nat) (bytes : Bytes) : Plan (Except Errno Unit) := do
  if bytes.isEmpty then return .ok ()
  return (← Plan.ask (.write descriptor bytes)).map fun _ => ()

/-- Prints a message to the errors. -/
def say (text : Bytes) : Plan Unit := do
  let _ ← writeAll 2 (text ++ ['\n'])

/-- Whether a name is shown between quotes: it holds something that a shell would not leave alone. -/
def needsQuotes (name : Bytes) : Bool :=
  name.isEmpty || name.any (fun c => !c.isAlphanum && !"%+,-./:@_^]#~".toList.contains c) ||
    name.head?.any fun c => c == '#' || c == '~'

/-- A name between quotes. -/
def quotedName (name : Bytes) : Bytes :=
  if name.contains '\'' && !name.any (fun c => ['"', '$', '\x60', '\\', '!'].contains c) then '"' :: name ++ ['"']
  else '\'' :: name.flatMap (fun c => if c == '\'' then bytesOf "'\\''" else [c]) ++ ['\'']

/-- A name as messages show it. -/
def shownName (name : Bytes) : Bytes := if needsQuotes name then quotedName name else name

/-- Prints a message with the name of the tool before it. -/
def Invocation.complain (i : Invocation) (text : Bytes) : Plan Unit := say (i.name ++ bytesOf ": " ++ text)

/-- As `complain`, for a file. -/
def Invocation.complainOf (i : Invocation) (file : Bytes) (e : Errno) : Plan Unit :=
  i.complain (shownName file ++ bytesOf ": " ++ e.message)

/-- A message about options that are no such, and the end. -/
def Invocation.misused {α : Type} (i : Invocation) (text : Bytes) (status : Nat) : Plan α := do
  i.complain text
  say (bytesOf "Try '" ++ i.name ++ bytesOf " --help' for more information.")
  Plan.exit status

/-- Output that is printed by blocks. -/
structure Printer where
  /-- What was not printed yet, the latest part first. -/
  held : List Bytes := []
  size : Nat := 0
  /-- Whether everything is printed at once. -/
  immediate : Bool := false
  deriving Repr, Inhabited

namespace Printer

/-- The size of a block. -/
def block : Nat := 4096

/-- Prints what is held. A tool that cannot print ends. -/
def flush (i : Invocation) (p : Printer) : Plan Printer := do
  match ← writeAll 1 p.held.reverse.flatten with
  | .ok () => return { p with held := [], size := 0 }
  | .error e =>
    i.complain (bytesOf "write error: " ++ e.message)
    Plan.exit 1

/-- Prints bytes, sooner or later. -/
def put (i : Invocation) (p : Printer) (bytes : Bytes) : Plan Printer := do
  let p := { p with held := bytes :: p.held, size := p.size + bytes.length }
  if p.immediate || block ≤ p.size then p.flush i else return p

end Printer

/-- Prints bytes at once, and ends if that fails. -/
def Invocation.print (i : Invocation) (bytes : Bytes) : Plan Unit := do
  let _ ← ({ held := [bytes] } : Printer).flush i

/-! ## Reading -/

/-- How much is read at once. -/
def blockSize : Nat := 32768

/-- Bytes that come from a descriptor. -/
structure Reader where
  descriptor : Nat
  /-- What was read and not used yet. -/
  held : Bytes := []
  ended : Bool := false
  /-- How much is read at once. -/
  block : Nat := blockSize
  deriving Repr, Inhabited

/-- Reads a line up to a separator, and tells whether the separator was there; none at the end. -/
def Reader.line (separator : Char) (r : Reader) : Plan (Except Errno (Option (Bytes × Bool)) × Reader) :=
  Plan.loop (([] : List Bytes), r) fun (seen, r) => do
    let part := r.held.takeWhile (· != separator)
    match r.held.drop part.length with
    | _ :: rest => return .inr (.ok (some ((part :: seen).reverse.flatten, true)), { r with held := rest })
    | [] =>
      let seen := if part.isEmpty then seen else part :: seen
      if r.ended then
        let text := seen.reverse.flatten
        return .inr (.ok (if text.isEmpty then none else some (text, false)), { r with held := [] })
      else match ← Plan.ask (.read r.descriptor r.block) with
        | .error e => return .inr (.error e, { r with ended := true, held := [] })
        | .ok [] => return .inl (seen, { r with ended := true, held := [] })
        | .ok bytes => return .inl (seen, { r with held := bytes })

/-- Reads everything. -/
def readAll (descriptor : Nat) : Plan (Except Errno Bytes) :=
  Plan.loop ([] : List Bytes) fun seen => do
    match ← Plan.ask (.read descriptor blockSize) with
    | .error e => return .inr (.error e)
    | .ok [] => return .inr (.ok seen.reverse.flatten)
    | .ok bytes => return .inl (bytes :: seen)

/-- Opens a file to read it; a single hyphen is the input. -/
def openInput (file : Bytes) : Plan (Except Errno Nat) :=
  if file == ['-'] then return .ok 0 else Plan.ask (.openFile file { reads := true })

/-- Closes what `openInput` has opened. -/
def closeInput (descriptor : Nat) : Plan Unit := do
  if descriptor != 0 then
    let _ ← Plan.ask (.close descriptor)

/-- Does something with each file in turn, beginning with the input if none is given; the status tells whether all
could be opened. -/
def Invocation.overFiles {σ : Type} (i : Invocation) (files : List Bytes) (s : σ)
    (body : σ → Bytes → Nat → Plan (σ × Nat)) : Plan (σ × Nat) := do
  let mut s := s
  let mut status := 0
  for file in (if files.isEmpty then [['-']] else files) do
    match ← openInput file with
    | .error e =>
      i.complainOf file e
      status := 1
    | .ok d =>
      let (s', result) ← body s file d
      s := s'
      status := max status result
      closeInput d
  return (s, status)

/-- Reads the lines of a file one after another, until there is a result. -/
def Invocation.overLines {σ α : Type} (i : Invocation) (file : Bytes) (separator : Char) (r : Reader) (s : σ)
    (body : σ → Bytes → Bool → Reader → Plan (σ ⊕ α)) (atEnd : σ → Bool → Plan α) : Plan α :=
  Plan.loop (r, s) fun (r, s) => do
    match ← r.line separator with
    | (.error e, _) =>
      i.complainOf file e
      return .inr (← atEnd s false)
    | (.ok none, _) => return .inr (← atEnd s true)
    | (.ok (some (line, whole)), r) =>
      match ← body s line whole r with
      | .inl s => return .inl (r, s)
      | .inr a => return .inr a

/-! ## Running other programs -/

/-- Where programs are looked for if nothing else is said. -/
def standardPath : Bytes := bytesOf "/bin:/usr/bin"

/-- Lets another program take over, found on the search path of an environment; gives why that is refused. -/
def runOnPath (environment : List (Bytes × Bytes)) (command : List Bytes) : Plan Errno := do
  let name := command.headD []
  if name.contains '/' then return ← Plan.ask (.run name command environment)
  let mut e : Errno := .notFound
  for dir in Bytes.split ':' ((environment.lookup (bytesOf "PATH")).getD standardPath) do
    let other ← Plan.ask (.run (if dir.isEmpty then name else dir ++ '/' :: name) command environment)
    if other != .notFound && other != .notDirectory then e := other
  return e

/-! ## Options -/

/-- Whether an option takes a value. -/
inductive Takes where
  | nothing
  | value
  | maybe
  deriving DecidableEq, Repr, Inhabited

/-- An option, with the letter it is known by. -/
structure OptionForm where
  letter : Char
  takes : Takes := .nothing
  long : String := ""
  deriving Repr, Inhabited

/-- Options that were given, and the other arguments. -/
abbrev Parsed := List (Char × Option Bytes) × List Bytes

/-- The letters in one argument. -/
def shortOptions (forms : List OptionForm) : Bytes → List Bytes → Except Bytes Parsed
  | [], rest => .ok ([], rest)
  | c :: more, rest =>
    match forms.find? (·.letter == c) with
    | none => .error (bytesOf "invalid option -- '" ++ [c, '\''])
    | some f =>
      match f.takes with
      | .nothing => (shortOptions forms more rest).map fun (options, rest) => ((c, none) :: options, rest)
      | .maybe => .ok ([(c, if more.isEmpty then none else some more)], rest)
      | .value =>
        if !more.isEmpty then .ok ([(c, some more)], rest)
        else match rest with
          | value :: rest => .ok ([(c, some value)], rest)
          | [] => .error (bytesOf "option requires an argument -- '" ++ [c, '\''])

/-- A long option; its name may be cut short if that leaves no doubt. -/
def longOption (forms : List OptionForm) (text : Bytes) (rest : List Bytes) : Except Bytes Parsed :=
  let name := text.takeWhile (· != '=')
  let given : Option Bytes := if name.length < text.length then some (text.drop (name.length + 1)) else none
  let exact := forms.filter fun f => !f.long.isEmpty && bytesOf f.long == name
  let near := forms.filter fun f => !f.long.isEmpty && name.isPrefixOf (bytesOf f.long)
  match exact ++ near with
  | [] => .error (bytesOf "unrecognized option '--" ++ text ++ ['\''])
  | f :: others =>
    if exact.isEmpty && others.any (·.letter != f.letter) then
      .error (bytesOf "option '--" ++ text ++ bytesOf "' is ambiguous; possibilities:" ++
        (near.flatMap fun g => bytesOf (" '--" ++ g.long ++ "'")))
    else
      let shown := bytesOf ("option '--" ++ f.long ++ "'")
      match f.takes, given, rest with
      | .nothing, some _, _ => .error (shown ++ bytesOf " doesn't allow an argument")
      | .nothing, none, _ => .ok ([(f.letter, none)], rest)
      | .maybe, value, _ => .ok ([(f.letter, value)], rest)
      | .value, some value, _ => .ok ([(f.letter, some value)], rest)
      | .value, none, value :: rest => .ok ([(f.letter, some value)], rest)
      | .value, none, [] => .error (shown ++ bytesOf " requires an argument")

/-- Reads options; if `mixed`, they may also follow other arguments. Every step of `fuel` takes an argument or
more. -/
def optionsFrom (forms : List OptionForm) (mixed : Bool) : (fuel : Nat) → List Bytes → Except Bytes Parsed
  | 0, args => .ok ([], args)
  | _ + 1, [] => .ok ([], [])
  | fuel + 1, arg :: rest =>
    let goOn (first : Except Bytes Parsed) : Except Bytes Parsed :=
      match first with
      | .error e => .error e
      | .ok (options, rest) =>
        (optionsFrom forms mixed fuel rest).map fun (more, args) => (options ++ more, args)
    match arg with
    | ['-', '-'] => .ok ([], rest)
    | '-' :: '-' :: name => goOn (longOption forms name rest)
    | '-' :: c :: more => goOn (shortOptions forms (c :: more) rest)
    | _ =>
      if mixed then (optionsFrom forms mixed fuel rest).map fun (options, args) => (options, arg :: args)
      else .ok ([], arg :: rest)

/-- Reads options. -/
def options (forms : List OptionForm) (mixed : Bool) (args : List Bytes) : Except Bytes Parsed :=
  optionsFrom forms mixed (args.length + 1) args

/-- As `options`; wrong ones end the tool with a status. -/
def Invocation.options (i : Invocation) (forms : List OptionForm) (status : Nat) (mixed : Bool) : Plan Parsed :=
  match Tool.options forms mixed i.args with
  | .ok parsed => pure parsed
  | .error e => i.misused e status

/-- Whether an option was given. -/
def has (given : List (Char × Option Bytes)) (letter : Char) : Bool := given.any (·.1 == letter)

/-- The last value of an option. -/
def value? (given : List (Char × Option Bytes)) (letter : Char) : Option Bytes :=
  ((given.filter (·.1 == letter)).getLast?).bind (·.2)

/-- Options that are switches. -/
def switches (letters : String) : List OptionForm := letters.toList.map fun c => { letter := c }

end Tool
end Frontier
