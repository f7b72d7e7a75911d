import Frontier.Shell.Token

/-!
# Reading words

A word goes up to a blank or an operator that is not quoted. Quotations, parameters and arithmetic may stand inside
each other; every level has its own rules for what a character means.
-/

namespace Frontier.Shell

/-- How characters are taken. -/
inductive Rules where
  | base
  | double
  | single
  | arithmetic
  deriving DecidableEq, Repr, Inhabited

/-- A level of quotation. -/
structure Level where
  rules : Rules
  /-- Whether a quotation inside braces is open. -/
  innerQuote : Bool := false
  /-- Whether the level was begun by braces. -/
  byBraces : Bool := false
  inDouble : Bool := false
  /-- How many braces are open. -/
  braces : Nat := 0
  /-- How many of them are quoted. -/
  quotedBraces : Nat := 0
  /-- How many parentheses are open in an expression. -/
  parens : Nat := 0
  deriving Repr, Inhabited

/-- A word in the order in which it is read. -/
inductive Bit where
  | piece (p : Piece)
  | openParameter (name : Bytes) (form : Form) (orEmpty : Bool)
  | closeParameter
  | openArithmetic
  | closeArithmetic
  deriving Inhabited

/-- The pieces that some bits make, up to the end of what is open, and the bits after it. -/
def nest : (fuel : Nat) → List Bit → Word × List Bit
  | 0, bits => ([], bits)
  | _ + 1, [] => ([], [])
  | fuel + 1, bit :: rest =>
    let before (p : Piece) (rest : List Bit) : Word × List Bit :=
      let (more, rest) := nest fuel rest
      (p :: more, rest)
    match bit with
    | .piece p => before p rest
    | .openParameter name form orEmpty =>
      let (word, rest) := nest fuel rest
      before (.parameter name form orEmpty word) rest
    | .openArithmetic =>
      let (word, rest) := nest fuel rest
      before (.arithmetic word) rest
    | .closeParameter | .closeArithmetic => ([], rest)

/-- What is to be read inside a word: a list of commands, by how it ends, or one command. -/
inductive Goal where
  /-- A whole line, or to the end of the script. -/
  | line
  /-- Commands up to a word that ends them; they may be missing altogether if `mayBeEmpty`. -/
  | list (mayBeEmpty : Bool)
  /-- Commands up to a closing parenthesis. -/
  | enclosed
  | command
  deriving DecidableEq, Repr, Inhabited

/-- A word that is being read. -/
structure Draft where
  /-- What was read, latest first. -/
  bits : List Bit := []
  level : Level
  /-- The levels around it. -/
  levels : List Level := []
  hasQuotes : Bool := false
  deriving Inhabited

namespace Draft

/-- Adds a piece. -/
def add (d : Draft) (p : Piece) : Draft := { d with bits := .piece p :: d.bits }

/-- Adds a character by the rules of its level. -/
def char (d : Draft) (c : Char) : Draft :=
  d.add (match d.level.rules with
    | .base | .arithmetic => .plain c
    | .double | .single => .quoted c)

/-- Begins a level. -/
def push (d : Draft) (level : Level) : Draft := { d with level, levels := d.level :: d.levels }

/-- Ends a level. -/
def pop (d : Draft) : Draft :=
  match d.levels with
  | level :: levels => { d with level, levels }
  | [] => d

/-- A quotation mark of a word that is no here-document. -/
def quotation (d : Draft) (inDocument : Bool) : Draft := if inDocument then d else d.add .mark

/-- A closing brace. -/
def closeBrace (d : Draft) : Draft :=
  if !d.level.innerQuote && 0 < d.level.braces then
    let d := { d with level.braces := d.level.braces - 1 }
    let d := if d.level.braces == 0 && d.level.byBraces then d.pop
      else { d with level.quotedBraces := d.level.quotedBraces - 1 }
    { d with bits := .closeParameter :: d.bits }
  else d.char '\x7d'

end Draft

namespace Parser

/-- The commands between backquotes, as they are written there. -/
def backquoted (inDouble : Bool) : (fuel : Nat) → Parser Bytes
  | 0 => return []
  | fuel + 1 => do
    match ← nextChar with
    | some '\x60' => return []
    | some '\\' =>
      let c ← next
      let more ← backquoted inDouble fuel
      match c with
      | none => return more
      | some c =>
        if c == '\\' || c == '\x60' || c == '$' || (inDouble && c == '"') then return c :: more
        else return '\\' :: c :: more
    | none => wrong (bytesOf "EOF in backquote substitution")
    | some c =>
      if c == '\n' then countLine
      return c :: (← backquoted inDouble fuel)

/-- Reads commands with another text as the script. -/
def within (text : Bytes) (read : Parser Tree) : Parser Tree := do
  let p ← get
  let (result, q) := read.run { text, aliases := p.aliases, documents := p.documents, nextDocument := p.nextDocument }
  set { p with documents := q.documents, nextDocument := q.nextDocument }
  match result with
  | .ok t => return t
  | .error e => throw e

/-- Reads the characters of a name after its first one. -/
def restOfName (p : Char → Bool) : (fuel : Nat) → Option Char → Parser (Bytes × Option Char)
  | fuel + 1, some c => do
    if p c then
      let (more, last) ← restOfName p fuel (← nextChar)
      return (c :: more, last)
    else return ([], some c)
  | _, c => return ([], c)

/-- The form that a character begins after the name of a parameter. -/
def form? : Char → Option Form
  | '\x7d' => some .plain
  | '-' => some .orElse
  | '+' => some .andThen
  | '?' => some .orFail
  | '=' => some .orSet
  | _ => none

/-- Reads the name of a parameter: the name, whether its length is asked for, and the character after it. The name
is missing if there is none. -/
def parameterName (fuel : Nat) (inBraces : Bool) (c : Option Char) : Parser (Option Bytes × Bool × Option Char) := do
  let named (isLength : Bool) (c : Char) : Parser (Option Bytes × Bool × Option Char) := do
    if beginsName c then
      let (name, c) ← restOfName inName fuel (some c)
      return (some name, isLength, c)
    else if inBraces then
      let (name, c) ← restOfName Char.isDigit fuel (some c)
      return (some name, isLength, c)
    else return (some [c], isLength, ← nextChar)
  match c with
  | none => return (none, false, none)
  | some c =>
    if beginsName c || c.isDigit then named false c
    else if c == '\x7d' then return (none, false, some c)
    else
      let after ← nextChar
      if inBraces && c == '#' then
        match after with
        | some a =>
          if a == '_' || a.isAlphanum then named true a
          else
            let later ← nextChar
            if a == '\x7d' || later != some '\x7d' then
              unread later
              return (some ['#'], false, some a)
            else if isSpecial a then return (some [a], true, later)
            else return (none, false, later)
        | none => return (some ['#'], false, none)
      else if isSpecial c then return (some [c], false, after)
      else return (none, false, after)

/-- Reads a parameter after the dollar sign and, if there is one, the brace. -/
def parameter (fuel : Nat) (inBraces : Bool) (c : Option Char) (d : Draft) : Parser Draft := do
  let (name, isLength, c) ← parameterName fuel inBraces c
  let begin (form : Form) (orEmpty : Bool) (rules : Rules) : Draft :=
    let name := name.getD []
    if form == .plain && !orEmpty then d.add (.parameter name .plain false [])
    else
      let rules := if rules == .arithmetic then .double else rules
      let d := { d with bits := .openParameter name form orEmpty :: d.bits }
      let d := if rules != d.level.rules || d.level.innerQuote then
          d.push { rules, byBraces := true, inDouble := rules != .base }
        else d
      { d with
        level.braces := d.level.braces + 1
        level.quotedBraces := d.level.quotedBraces + if d.level.inDouble then 1 else 0 }
  let rules := d.level.rules
  if !inBraces then
    unread c
    return begin (if name.isSome then .plain else .wrong) false rules
  else if name.isNone then
    unread c
    return begin .wrong false rules
  else if isLength then
    unread c
    return begin .length false rules
  else match c with
    | some ':' => return begin (((← nextChar).bind form?).getD .wrong) true rules
    | some '%' | some '#' =>
      let again ← nextChar
      if again != c then unread again
      return begin (.trim (c == some '%') (again == c)) false .base
    | c => return begin ((c.bind form?).getD .wrong) false rules

/-- Reads the text of a here-document's line that could end it; tells whether it does. -/
def endsDocument (delimiter : Bytes) (stripsTabs : Bool) (first : Option Char) : Parser (Option (Option Char)) := do
  let p ← get
  let held := first.toList ++ p.text
  let line := if stripsTabs then held.dropWhile (· == '\t') else held
  let after := line.drop delimiter.length
  if delimiter.isPrefixOf line && (after.isEmpty || after.head? == some '\n') then
    if !p.isWhole && after.isEmpty && p.outer.isEmpty then throw .incomplete
    set { p with text := after.tail, line := p.line + if after.isEmpty then 0 else 1 }
    return none
  else match line with
    | c :: rest =>
      set { p with text := rest }
      return some (some c)
    | [] =>
      set { p with text := [] }
      if p.isWhole then return some none else throw .incomplete

/-- Whether a backslash before a character is read as one. -/
def staysBackslash (d : Draft) (inDocument : Bool) (c : Char) : Bool :=
  d.level.inDouble && c != '\\' && c != '\x60' && c != '$' &&
    (c != '"' || (inDocument && d.level.braces == 0)) && (c != '\x7d' || d.level.braces == 0)

/-- What comes after a character of a word. -/
inductive Onward where
  | goOn (d : Draft)
  /-- Goes on with another line of a here-document. -/
  | nextLine (d : Draft)
  | stop (d : Draft) (c : Option Char)

/-- Reads what a dollar sign begins. -/
def dollar (again : Goal → Parser Tree) (fuel : Nat) (d : Draft) : Parser Draft := do
  let c ← nextChar
  let starts := c.any fun c => c == '(' || c == '\x7b' || beginsName c || c.isDigit || isSpecial c
  if (← get).look.delimiter || !starts then
    unread c
    return d.char '$'
  else if c == some '(' then
    let c ← nextChar
    if c == some '(' then
      return { d with bits := .openArithmetic :: d.bits }.push { rules := .arithmetic, inDouble := true }
    else
      unread c
      let awaited := (← get).awaited
      modify fun p => { p with awaited := [] }
      let body ← again .enclosed
      modify fun p => { p with awaited }
      return d.add (.substitution body)
  else if c == some '\x7b' then parameter fuel true (← nextChar) d
  else parameter fuel false c d

/-- Takes one character of a word. -/
def takeChar (again : Goal → Parser Tree) (fuel : Nat) (inDocument : Bool) (d : Draft) (c : Char) :
    Parser Onward := do
  let level := d.level
  let goOn (d : Draft) : Parser Onward := return .goOn d
  if c == '\n' then
    if level.rules == .base && level.braces == 0 then return .stop d (some c)
    countLine
    return .nextLine (d.char c)
  match level.rules, c with
  | .single, '\'' =>
    if inDocument && level.braces == 0 then goOn (d.char c)
    else
      let d := if level.quotedBraces == 0 then { d with level.rules := .base, level.inDouble := false } else d
      goOn ({ d with hasQuotes := true }.quotation inDocument)
  | .single, c => goOn (d.char c)
  | _, '\\' =>
    match ← next with
    | none => goOn (d.add (.quoted '\\'))
    | some e =>
      let d := if staysBackslash d inDocument e then d.add (.quoted '\\') else d
      goOn { d.add (.quoted e) with hasQuotes := true }
  | _, '$' => goOn (← dollar again fuel d)
  | _, '\x60' =>
    if (← get).look.delimiter then goOn (d.char c)
    else
      let text ← backquoted level.inDouble fuel
      goOn (d.add (.substitution (← within text (again (.list true)))))
  | _, '\x7d' => goOn d.closeBrace
  | .base, '\'' => goOn ({ d with level.rules := .single }.quotation inDocument)
  | .base, '"' =>
    let d := { d with level.rules := .double, level.inDouble := true }
    let d := if 0 < level.braces then { d with level.innerQuote := !level.innerQuote } else d
    goOn (d.quotation inDocument)
  | .double, '"' =>
    if inDocument && level.braces == 0 then goOn (d.char c)
    else
      let d := if level.quotedBraces == 0 then { d with level.rules := .base, level.inDouble := false } else d
      let d := if 0 < level.braces then { d with level.innerQuote := !level.innerQuote } else d
      goOn ({ d with hasQuotes := true }.quotation inDocument)
  | .arithmetic, '(' => goOn ({ d with level.parens := level.parens + 1 }.char c)
  | .arithmetic, ')' =>
    if 0 < level.parens then goOn ({ d with level.parens := level.parens - 1 }.char c)
    else
      let after ← nextChar
      if after == some ')' then goOn { d with bits := .closeArithmetic :: d.bits }.pop
      else
        unread after
        goOn (d.char c)
  | .base, c =>
    if "<>();&| \t".toList.contains c && level.braces == 0 then return .stop d (some c) else goOn (d.char c)
  | _, c => goOn (d.char c)

/-- Reads a word from a character on, up to where it ends, or a here-document up to its delimiter. -/
def wordFrom (again : Goal → Parser Tree) (document : Option (Bytes × Bool)) :
    (fuel : Nat) → (atLineStart : Bool) → Draft → Option Char → Parser (Draft × Option Char)
  | 0, _, d, c => return (d, c)
  | fuel + 1, atLineStart, d, c => do
    let c ← match document, atLineStart with
      | some (delimiter, stripsTabs), true => endsDocument delimiter stripsTabs c
      | _, _ => pure (some c)
    match c with
    | none | some none => return (d, none)
    | some (some c) =>
      match ← takeChar again fuel document.isSome d c with
      | .stop d c => return (d, c)
      | .goOn d => wordFrom again document fuel false d (← if d.level.rules == .single then next else nextChar)
      | .nextLine d => wordFrom again document fuel true d (← if d.level.rules == .single then next else nextChar)

/-- Reads the whole of a word or a here-document. -/
def draft (again : Goal → Parser Tree) (document : Option (Bytes × Bool)) (rules : Rules) (c : Option Char) :
    Parser (Draft × Option Char) := do
  let p ← get
  let fuel := 2 * (p.outer.map (·.rest.length)).foldl (· + ·) p.text.length + 10
  let (d, c) ← wordFrom again document fuel true { level := { rules, inDouble := rules == .double } } c
  if d.level.rules == .arithmetic then wrong (bytesOf "Missing '))'")
  if d.level.rules != .base && document.isNone then wrong (bytesOf "Unterminated quoted string")
  if d.level.braces != 0 then wrong (bytesOf "Missing '\x7d'")
  return (d, c)

/-- Reads what comes after `<` or `>`. -/
def redirectionOp (c : Char) (descriptor : Option Nat) : Parser Begun := do
  let after ← nextChar
  if c == '>' then
    let descriptor := descriptor.getD 1
    match after with
    | some '>' => return .file descriptor .appends
    | some '|' => return .file descriptor .clobbers
    | some '&' => return .copy descriptor
    | after =>
      unread after
      return .file descriptor .writes
  else
    let descriptor := descriptor.getD 0
    match after with
    | some '<' =>
      let c ← nextChar
      if c == some '-' then return .here descriptor true
      unread c
      return .here descriptor false
    | some '&' => return .copy descriptor
    | some '>' => return .file descriptor .readsAndWrites
    | after =>
      unread after
      return .file descriptor .reads

/-- Reads a word, or a redirection. -/
def word (again : Goal → Parser Tree) (c : Option Char) : Parser Token := do
  let (d, c) ← draft again none .base c
  let bits := d.bits.reverse
  let (text, _) := nest (bits.length + 1) bits
  let descriptor : Option (Option Nat) := match text with
    | [] => some none
    | [.plain n] => if n.isDigit then some (some (n.toNat - 48)) else none
    | _ => none
  match c, descriptor with
  | some c, some descriptor =>
    if (c == '<' || c == '>') && !d.hasQuotes then
      let begun ← redirectionOp c descriptor
      modify fun p => { p with begun }
      return ← token .redirection
    unread (some c)
  | c, _ => unread c
  modify fun p => { p with word := text, wordQuoted := d.hasQuotes }
  token .word

end Parser
end Frontier.Shell
