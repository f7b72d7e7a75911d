import Frontier.Shell.Arithmetic
import Frontier.Shell.Field
import Frontier.Shell.Job

/-!
# Expansion

Parameters, substitutions and arithmetic in a word are replaced by what they stand for.
-/

namespace Frontier.Shell

/-- How a word is expanded. -/
structure Mode where
  /-- Into fields. -/
  full : Bool := false
  /-- A tilde at the head leads home. -/
  tilde : Bool := false
  /-- So does a tilde after the equals sign, and after colons. -/
  assignment : Bool := false
  quoted : Bool := false
  /-- The word stands inside a parameter. -/
  inner : Bool := false
  deriving DecidableEq, Repr, Inhabited

/-- A word that is being expanded. -/
structure Expanding where
  /-- Latest first. -/
  cells : List Cell := []
  size : Nat := 0
  /-- Latest first. -/
  regions : List Region := []
  deriving Repr, Inhabited

namespace Expanding

/-- Adds a cell. -/
def push (e : Expanding) (c : Cell) : Expanding := { e with cells := c :: e.cells, size := e.size + 1 }

/-- Adds a text. -/
def add (e : Expanding) (quoted : Bool) (text : Bytes) : Expanding :=
  text.foldl (fun e c => if c == '\x00' then e else e.push (if quoted then .quoted c else .plain c)) e

/-- Notes a region that may be cut. -/
def note (e : Expanding) (first : Nat) (byParams : Bool) : Expanding :=
  { e with regions := ⟨first, e.size, byParams⟩ :: e.regions }

/-- Drops what was added after a place. -/
def backTo (e : Expanding) (place : Nat) : Expanding :=
  { cells := e.cells.drop (e.size - place), size := min place e.size
    regions := e.regions.filter fun r => r.last ≤ place }

/-- What was added after a place. -/
def since (e : Expanding) (place : Nat) : List Cell := (e.cells.take (e.size - place)).reverse

end Expanding

/-- The homes of users. -/
def homes : List (String × String) :=
  [("root", "/root"), ("daemon", "/usr/sbin"), ("bin", "/bin"), ("sys", "/dev"), ("nobody", "/nonexistent")]

/-- The letters of options, in the order in which they are shown. -/
def shownOptions : List Char := "pubaCEVvxsnmiIfe".toList

/-- Nothing is known of a parameter. -/
def missing {α : Type} (name text : Bytes) : Sh α := Sh.fail (name ++ bytesOf ": " ++ text)

/-- The value of a parameter that stands for one text. -/
def single? (name : Bytes) : Sh (Option Bytes) := do
  let s ← get
  match name with
  | ['$'] => return some (Bytes.ofNat s.root)
  | ['?'] => return some (Bytes.ofNat s.status)
  | ['#'] => return some (Bytes.ofNat s.params.length)
  | ['!'] => return s.background.map Bytes.ofNat
  | ['-'] => return some (shownOptions.filter s.options.contains)
  | ['0'] => return some s.name
  | _ =>
    match Bytes.toNat? name with
    | some 0 => return some s.name
    | some n => return s.params[n - 1]?
    | none => Sh.value? name

/-- The separators of fields, if they are set. -/
def separators? : Sh (Option Bytes) := Sh.value? (bytesOf "IFS")

/-- The separators of fields. -/
def separators : Sh Bytes := return (← separators?).getD [' ', '\t', '\n']

/-- Adds the value of a parameter; the number of its characters, none if it is missing. -/
def addValue (m : Mode) (name : Bytes) (e : Expanding) : Sh (Option Nat × Expanding) := do
  if name == ['@'] || name == ['*'] then
    let ifs ← separators?
    let first := (ifs.getD [' ']).take 1
    let between : List Cell :=
      if name == ['@'] && m.quoted && m.full then [.plain paramEnd]
      else if m.quoted then first.map .quoted
      else if !m.full then first.map .plain
      else match ifs with
        | none => [.plain ' ']
        | some _ => [.plain paramEnd]
    let mut e := e
    let start := e.size
    let mut isFirst := true
    for p in (← get).params do
      if !isFirst then e := between.foldl Expanding.push e
      isFirst := false
      e := e.add m.quoted p
    return (some (e.size - start), e)
  else
    match ← single? name with
    | some value => return (some value.length, e.add m.quoted value)
    | none => return (none, e)

/-- Notes the region of a parameter. -/
def noteParameter (m : Mode) (name : Bytes) (start : Nat) (e : Expanding) : Sh Expanding := do
  if m.quoted then
    if name == ['@'] && !(← get).params.isEmpty then return e.note start true else return e
  return e.note start false

/-- Expands a parameter; `inner` expands a word inside it. -/
def parameter (inner : Mode → Word → Expanding → Sh Expanding) (m : Mode) (name : Bytes) (form : Form) (orEmpty : Bool)
    (word : Word) (e : Expanding) : Sh Expanding := do
  let start := e.size
  if form == .wrong then Sh.failWith "Bad substitution"
  let (size, valued) ← addValue m name e
  let isMissing := size.isNone || orEmpty && size == some 0
  let unset : Sh Unit := do
    if isMissing && (← Sh.option 'u') then missing name (bytesOf "parameter not set")
  match form with
  | .orElse =>
    if isMissing then inner { m with tilde := true, inner := true } word valued
    else noteParameter m name start valued
  | .andThen =>
    if isMissing then noteParameter m name start e else inner { m with tilde := true, inner := true } word e
  | .orSet =>
    if isMissing then
      let text := Cell.text ((← inner { tilde := true } word {}).cells.reverse)
      Sh.assign name text
      let (_, e) ← addValue m name e
      noteParameter m name start e
    else noteParameter m name start valued
  | .orFail =>
    if isMissing then
      let text := Cell.text ((← inner { tilde := true } word {}).cells.reverse)
      missing name (if !word.isEmpty then text else bytesOf (if orEmpty then "parameter not set or null" else "parameter not set"))
    else noteParameter m name start valued
  | .length =>
    unset
    noteParameter m name start (e.add m.quoted (Bytes.ofNat (size.getD 0)))
  | .trim atEnd longest =>
    unset
    if isMissing then return e
    let value := valued.since start
    let pattern := Cell.glyphs ((← inner { tilde := true } word {}).cells.reverse)
    let n := Glob.trimmed atEnd longest pattern (Cell.text value)
    let kept := if atEnd then value.take (value.length - n) else value.drop n
    noteParameter m name start (kept.foldl Expanding.push (valued.backTo start))
  | .plain | .wrong =>
    unset
    if isMissing then return e
    noteParameter m name start valued

/-- The output of a command, without the newlines at its end. -/
def substitution (r : Runner) (body : Tree) : Sh Bytes := do
  match body with
  | .nothing => return []
  | body =>
    let (reading, writing) ← Sh.ask .makePipe
    makePlace
    let child ← forkShell r do
      let _ ← Sh.ask (.close reading)
      if writing != 1 then
        let _ ← Sh.ask (.replace writing 1)
        let _ ← Sh.ask (.close writing)
      r.run { isLast := true } body
    let _ ← Sh.ask (.close writing)
    let text ← Sh.loop ([] : List Bytes) fun seen => do
      match ← Sh.ask (.read reading 4096) with
      | .ok [] => return .inr seen.reverse.flatten
      | .ok bytes => return .inl (bytes :: seen)
      | .error .interrupted => return .inl seen
      | .error _ => return .inr seen.reverse.flatten
    let _ ← Sh.ask (.close reading)
    let status ← awaitChildren [child]
    modify fun s => { s with substituted := status }
    return (text.filter (· != '\x00')).reverse.dropWhile (· == '\n') |>.reverse

/-- The value of an expression. -/
def arithmetic (text : Bytes) : Sh Int := do
  let s ← get
  let look (name : Bytes) : Except Arithmetic.Flaw Int :=
    let value := ((s.vars.lookup name).bind (·.value)).getD []
    match wholeNumber? none value with
    | some n => .ok n
    | none => .error (.noNumber value)
  let isFixed (name : Bytes) : Bool := (s.vars.lookup name).any (·.isFixed)
  match Arithmetic.value look isFixed text with
  | .ok (n, changes) =>
    for (name, n) in changes.reverse do Sh.assign name (Bytes.ofInt n)
    return n
  | .error (.expected what) =>
    Sh.fail (bytesOf ("arithmetic expression: expecting " ++ what ++ ": \"") ++ text ++ ['"'])
  | .error .divisionByZero => Sh.fail (bytesOf "arithmetic expression: division by zero: \"" ++ text ++ ['"'])
  | .error (.noNumber value) => Sh.fail (bytesOf "Illegal number: " ++ value)
  | .error (.isFixed name) => Sh.fail (name ++ bytesOf ": is read only")
  | .error .crash =>
    let (self, _) ← Sh.ask .identity
    let _ ← Sh.ask (.signal self 8)
    Sh.stop 136

/-- How far the pieces of a word have been expanded. -/
structure Passing where
  e : Expanding
  inQuotes : Bool := false
  /-- Whether the equals sign of an assignment was passed. -/
  pastEquals : Bool := false
  /-- Where plain characters began. -/
  literal : Option Nat := none
  deriving Inhabited

/-- Notes the plain characters of a word inside a parameter, which may be cut. -/
def Passing.settle (m : Mode) (p : Passing) : Passing :=
  match p.literal with
  | some start =>
    let cuts := m.inner && !m.quoted && !p.inQuotes && start < p.e.size
    { p with e := if cuts then p.e.note start false else p.e, literal := none }
  | none => p

/-- The home that a tilde leads to, and what follows its name. -/
def home? (m : Mode) (word : Word) : Sh (Option (Bytes × Word)) := do
  match word with
  | .plain '~' :: rest =>
    let ends (c : Char) : Bool := c == '/' || m.assignment && c == ':'
    let name := (plainHead rest).takeWhile fun c => !ends c
    let after := rest.drop name.length
    let isWhole := match after with
      | [] => true
      | .plain c :: _ => ends c
      | _ => false
    if !isWhole then return none
    let home ← if name.isEmpty then Sh.value? (bytesOf "HOME")
      else pure ((homes.lookup (String.ofList name)).map bytesOf)
    return home.map (·, after)
  | _ => return none

/-- Expands the pieces of a word one after another. Every step of `fuel` takes a piece or more. -/
def pieces (r : Runner) (inner : Mode → Word → Expanding → Sh Expanding) (m : Mode) :
    (fuel : Nat) → Bool → Word → Passing → Sh Expanding
  | 0, _, _, p => return p.e
  | fuel + 1, mayLeadHome, word, p => do
    let home ← if mayLeadHome then home? m word else pure none
    match home, word with
    | some (home, rest), _ =>
      let p := p.settle m
      pieces r inner m fuel false rest { p with e := p.e.add true home }
    | none, [] => return (p.settle m).e
    | none, .plain c :: rest =>
      let p := { p with e := p.e.push (.plain c), literal := p.literal.or (some p.e.size) }
      let isSpecial := m.assignment && (c == ':' || c == '=' && !p.pastEquals)
      pieces r inner m fuel isSpecial rest { p with pastEquals := p.pastEquals || m.assignment && c == '=' }
    | none, .quoted c :: rest =>
      let p := p.settle m
      pieces r inner m fuel false rest { p with e := p.e.push (.quoted c) }
    | none, .mark :: rest =>
      let p := p.settle m
      match p.inQuotes, rest with
      | false, .parameter ['@'] .plain _ _ :: .mark :: rest =>
        let e ← parameter inner { m with quoted := true } ['@'] .plain false [] p.e
        pieces r inner m fuel false rest { p with e }
      | _, rest => pieces r inner m fuel false rest { p with e := p.e.push .mark, inQuotes := !p.inQuotes }
    | none, .parameter name form orEmpty sub :: rest =>
      let p := p.settle m
      let e ← parameter inner { m with quoted := m.quoted || p.inQuotes } name form orEmpty sub p.e
      pieces r inner m fuel false rest { p with e }
    | none, .substitution body :: rest =>
      let p := p.settle m
      let quoted := m.quoted || p.inQuotes
      let start := p.e.size
      let e := p.e.add quoted (← substitution r body)
      pieces r inner m fuel false rest { p with e := if quoted then e else e.note start false }
    | none, .arithmetic expression :: rest =>
      let p := p.settle m
      let quoted := m.quoted || p.inQuotes
      let start := p.e.size
      let text := Cell.text (← inner {} expression {}).cells.reverse
      let e := p.e.add quoted (Bytes.ofInt (← arithmetic text))
      pieces r inner m fuel false rest { p with e := if quoted then e else e.note start false }

/-- How deep words may stand in each other. -/
def wordDepth : Nat := 10000

/-- Expands a word, down to a depth. -/
def expandWord (r : Runner) : (depth : Nat) → Mode → Word → Expanding → Sh Expanding
  | 0, _, _, e => return e
  | depth + 1, m, word, e => pieces r (expandWord r depth) m (word.length + 1) m.tilde word { e }

/-- Expands a word into fields. -/
def fields (r : Runner) (word : Word) : Sh (List Bytes) := do
  let e ← expandWord r wordDepth { full := true, tilde := true } word {}
  let cells := Fields.cut (← separators) none e.cells.reverse e.regions.reverse
  return (← cells.mapM filesMatching).flatten

/-- Expands a word into one text. -/
def text (r : Runner) (m : Mode) (word : Word) : Sh Bytes := do
  let e ← expandWord r wordDepth m word {}
  return Cell.text e.cells.reverse

/-- Expands a word into a pattern. -/
def pattern (r : Runner) (word : Word) : Sh (List Glyph) := do
  let e ← expandWord r wordDepth { tilde := true } word {}
  return Cell.glyphs e.cells.reverse

end Frontier.Shell
