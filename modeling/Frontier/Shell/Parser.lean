import Frontier.Shell.Word

/-!
# Reading commands

A script is read one line of commands at a time; what was read is run before the next line is read.
-/

namespace Frontier.Shell

/-- Commands that cannot be replaced by functions. -/
def specialCommands : List String :=
  [".", ":", "break", "continue", "eval", "exec", "exit", "export", "local", "readonly", "return", "set", "shift",
    "times", "trap", "unset"]

namespace Parser

/-- How many tokens a loop may read. -/
def tokenLimit : Nat := 10000000

/-- Goes round until there is a result. -/
def rounds {σ α : Type} (body : σ → Parser (σ ⊕ α)) : Nat → σ → Parser α
  | 0, _ => throw .incomplete
  | n + 1, s => do
    match ← body s with
    | .inl s => rounds body n s
    | .inr a => return a

/-- As `rounds`, with as many as any script may need. -/
def repeatedly {σ α : Type} (s : σ) (body : σ → Parser (σ ⊕ α)) : Parser α := rounds body tokenLimit s

/-- Reads the here-documents that have been announced. -/
def documents (again : Goal → Parser Tree) : Parser Unit := do
  let awaited := (← get).awaited
  modify fun p => { p with awaited := [] }
  for a in awaited do
    let c ← if a.expands then nextChar else next
    let (d, last) ← draft again (some (a.delimiter, a.stripsTabs)) (if a.expands then .double else .single) c
    unread last
    let bits := d.bits.reverse
    let (text, _) := nest (bits.length + 1) bits
    modify fun p => { p with documents := (a.number, ⟨text, a.expands⟩) :: p.documents }

/-- Reads the next token whatever it may mean. -/
def rawToken (again : Goal → Parser Tree) : Parser Token := do
  if (← get).again then
    modify fun p => { p with again := false }
    return (← get).last
  repeatedly () fun _ => do
    let pair (second : Char) (both one : Token) : Parser (Unit ⊕ Token) := do
      let c ← nextChar
      if c == some second then return .inr (← token both)
      unread c
      return .inr (← token one)
    match ← nextChar with
    | some ' ' | some '\t' => return .inl ()
    | some '#' =>
      passComment
      return .inl ()
    | some '\n' =>
      countLine
      return .inr (← token .newline)
    | none => return .inr (← token .endOfFile)
    | some '&' => pair '&' .and .ampersand
    | some '|' => pair '|' .or .bar
    | some ';' => pair ';' .endCase .semicolon
    | some '(' => return .inr (← token .openParen)
    | some ')' => return .inr (← token .closeParen)
    | c => return .inr (← word again c)

/-- The keyword that a word is. -/
def keyword? (word : Word) : Option Keyword :=
  (plainText? word).bind fun text => keywords.lookup (String.ofList text)

/-- Reads the value of an alias in place of its name. -/
def enterAlias (name value : Bytes) : Parser Unit :=
  modify fun p =>
    let endsBlank := value.getLast?.any fun c => c == ' ' || c == '\t'
    if value.isEmpty then p
    else { p with text := value, outer := { name, endsBlank, rest := p.text } :: p.outer }

/-- Reads the next token. -/
def nextToken (again : Goal → Parser Tree) : Parser Token := do
  let look := (← get).look
  repeatedly look fun look => do
    let t ← rawToken again
    if look.newlines && t == .newline then
      documents again
      return .inl { look with
        keywords := look.keywords || (← get).look.keywords, aliases := look.aliases || (← get).look.aliases }
    let p ← get
    let look := { look with keywords := look.keywords || p.look.keywords, aliases := look.aliases || p.look.aliases }
    set { p with look := {} }
    if t != .word || p.wordQuoted then return .inr t
    match if look.keywords then keyword? p.word else none with
    | some k => return .inr (← token (.keyword k))
    | none =>
      let name := if look.aliases then plainText? p.word else none
      match name.bind fun name => if p.outer.any (·.name == name) then none else (p.aliases.lookup name).map (name, ·) with
      | some (name, value) =>
        enterAlias name value
        return .inl look
      | none => return .inr t

/-- Reads a token that must be there. -/
def expect (again : Goal → Parser Tree) (t : Token) : Parser Unit := do
  if (← nextToken again) != t then unexpected (some t)

/-- What is looked for where a command may begin. -/
def commandStart : Look := { keywords := true, aliases := true }

/-- As `commandStart`, and newlines may come before it. -/
def afterNewlines : Look := { newlines := true, keywords := true, aliases := true }

/-- Reads the name of a redirection. -/
def redirection (again : Goal → Parser Tree) : Parser Redirection := do
  let begun := (← get).begun
  match begun with
  | .here .. => lookFor { delimiter := true }
  | _ => pure ()
  if (← nextToken again) != .word then unexpected none
  let p ← get
  match begun with
  | .file descriptor opening => return .file descriptor opening p.word
  | .copy descriptor =>
    match p.word with
    | [.plain c] =>
      if c.isDigit then return .copy descriptor (some (c.toNat - 48))
      if c == '-' then return .copy descriptor none
      return .copyNamed descriptor p.word
    | _ => return .copyNamed descriptor p.word
  | .here descriptor stripsTabs =>
    let delimiter := p.word.filterMap fun
      | .plain c | .quoted c => some c
      | _ => none
    let number := p.nextDocument
    set { p with
      nextDocument := number + 1, awaited := p.awaited ++ [({ number, delimiter, expands := !p.wordQuoted, stripsTabs } : Awaited)] }
    return .here descriptor number

/-- Reads redirections as long as there are some. -/
def redirections (again : Goal → Parser Tree) : Parser (List Redirection) :=
  repeatedly ([] : List Redirection) fun seen => do
    if (← nextToken again) == .redirection then return .inl (seen ++ [← redirection again])
    tokenAgain
    return .inr seen

/-- What a simple command consists of so far. -/
structure Simple where
  assignments : List Word := []
  args : List Word := []
  redirections : List Redirection := []
  deriving Inhabited

/-- Reads a simple command, or the definition of a function. -/
def simple (again : Goal → Parser Tree) : Parser Tree := do
  let line := (← get).line
  repeatedly ({} : Simple) fun s => do
    lookFor { aliases := s.args.isEmpty }
    match ← nextToken again with
    | .word =>
      let word := (← get).word
      if s.args.isEmpty && isAssignment word then
        return .inl { s with assignments := s.assignments ++ [word] }
      return .inl { s with args := s.args ++ [word] }
    | .redirection => return .inl { s with redirections := s.redirections ++ [← redirection again] }
    | t =>
      match t, s.assignments, s.args, s.redirections with
      | .openParen, [], [name], [] =>
        expect again .closeParen
        let text := (plainText? name).getD []
        if !isName text || specialCommands.contains (String.ofList text) then
          wrong (bytesOf "Bad function name")
        lookFor afterNewlines
        let line := (← get).line
        return .inr (.function line text (← again .command))
      | _, _, _, _ =>
        tokenAgain
        return .inr (.simple line s.assignments s.args s.redirections)

/-- Reads the branches of a choice by patterns. -/
def branches (again : Goal → Parser Tree) : Parser (List (List Word × Tree)) := do
  let look : Look := { newlines := true, keywords := true }
  lookFor look
  let first ← nextToken again
  repeatedly (([] : List (List Word × Tree)), first) fun (seen, t) => do
    if t == .keyword .esac then return .inr seen
    if t == .openParen then
      let _ ← nextToken again
    let patterns ← repeatedly ([] : List Word) fun patterns => do
      let patterns := patterns ++ [(← get).word]
      if (← nextToken again) == .bar then
        let _ ← nextToken again
        return .inl patterns
      return .inr patterns
    if (← get).last != .closeParen then unexpected (some .closeParen)
    let body ← again (.list true)
    let seen := seen ++ [(patterns, body)]
    lookFor look
    match ← nextToken again with
    | .keyword .esac => return .inr seen
    | .endCase =>
      lookFor look
      return .inl (seen, ← nextToken again)
    | _ => unexpected (some .endCase)

/-- Reads the parts of a choice after its first test, up to its end. -/
def alternatives (again : Goal → Parser Tree) : Parser Tree := do
  let test ← again (.list false)
  expect again (.keyword .then)
  let yes ← again (.list false)
  let parts ← repeatedly [(test, yes)] fun parts => do
    if (← nextToken again) != .keyword .elif then return .inr parts
    let test ← again (.list false)
    expect again (.keyword .then)
    return .inl (parts ++ [(test, ← again (.list false))])
  let last ← if (← get).last == .keyword .else then again (.list false) else do
    tokenAgain
    pure .nothing
  return parts.foldr (fun (test, yes) no => .choice test yes no) last

/-- Reads the head of a loop over words. -/
def eachHead (again : Goal → Parser Tree) : Parser (Bytes × List Word) := do
  let t ← nextToken again
  let p ← get
  let name := (plainText? p.word).getD []
  if t != .word || p.wordQuoted || !isName name then wrong (bytesOf "Bad for loop variable")
  lookFor afterNewlines
  if (← nextToken again) == .keyword .in then
    let words ← repeatedly ([] : List Word) fun words => do
      if (← nextToken again) == .word then return .inl (words ++ [(← get).word])
      return .inr words
    let last := (← get).last
    if last != .newline && last != .semicolon then unexpected none
    return (name, words)
  if (← get).last != .semicolon then tokenAgain
  return (name, [[.mark, .parameter ['@'] .plain false [], .mark]])

/-- Reads a command. -/
def command (again : Goal → Parser Tree) : Parser Tree := do
  let line := (← get).line
  let closedBy (t : Token) (body : Tree) : Parser Tree := do
    expect again t
    return body
  let body : Option Tree ← match ← nextToken again with
    | .keyword .if => do
      let body ← alternatives again
      pure (some (← closedBy (.keyword .fi) body))
    | .keyword .while => do
      let test ← again (.list false)
      expect again (.keyword .do)
      pure (some (← closedBy (.keyword .done) (.loop false test (← again (.list false)))))
    | .keyword .until => do
      let test ← again (.list false)
      expect again (.keyword .do)
      pure (some (← closedBy (.keyword .done) (.loop true test (← again (.list false)))))
    | .keyword .for => do
      let (name, words) ← eachHead again
      lookFor afterNewlines
      expect again (.keyword .do)
      pure (some (← closedBy (.keyword .done) (.each line name words (← again (.list false)))))
    | .keyword .case => do
      expect again .word
      let word := (← get).word
      lookFor afterNewlines
      expect again (.keyword .in)
      pure (some (.cases line word (← branches again)))
    | .openParen => do pure (some (← closedBy .closeParen (.subshell line (← again (.list false)) [])))
    | .keyword .open => do pure (some (← closedBy (.keyword .close) (← again (.list false))))
    | .word | .redirection => do
      tokenAgain
      pure none
    | _ => unexpected none
  match body with
  | none => simple again
  | some body =>
    lookFor commandStart
    match body, ← redirections again with
    | body, [] => return body
    | .subshell line body _, redirections => return .subshell line body redirections
    | body, redirections => return .redirected line body redirections

/-- Reads commands that are joined by bars. -/
def pipeline (again : Goal → Parser Tree) : Parser Tree := do
  let negated := (← nextToken again) == .keyword .not
  if negated then lookFor commandStart else tokenAgain
  let first ← again .command
  let parts ← repeatedly [first] fun parts => do
    if (← nextToken again) != .bar then return .inr parts
    lookFor afterNewlines
    return .inl (parts ++ [← again .command])
  tokenAgain
  let whole := match parts with
    | [one] => one
    | parts => .pipeline false parts
  return if negated then .negation whole else whole

/-- Reads commands that are joined by `&&` and `||`. -/
def andOr (again : Goal → Parser Tree) : Parser Tree := do
  let first ← pipeline again
  repeatedly first fun left => do
    let t ← nextToken again
    if t == .and || t == .or then
      lookFor afterNewlines
      let right ← pipeline again
      return .inl (if t == .and then .both left right else .either left right)
    tokenAgain
    return .inr left

/-- A command that is run in the background. -/
def inBackground : Tree → Tree
  | .pipeline _ parts => .pipeline true parts
  | .redirected line body redirections => .background line body redirections
  | body => .background 0 body []

/-- How far a list of commands has been read. -/
structure Listing where
  tree : Option Tree := none
  /-- Whether a word that ends the list may come now. -/
  mayEnd : Bool
  deriving Inhabited

/-- Reads commands; `isLine` if they end with a line. -/
def list (again : Goal → Parser Tree) (isLine mayBeEmpty : Bool) : Parser Tree := do
  let atEnd (tree : Option Tree) : Parser (Listing ⊕ Tree) := do
    documents again
    modify fun p => { p with again := true, last := .endOfFile }
    return .inr (tree.getD .nothing)
  repeatedly ({ mayEnd := mayBeEmpty } : Listing) fun s => do
    lookFor { commandStart with newlines := !isLine }
    let t ← nextToken again
    if t == .newline then
      documents again
      return .inr (s.tree.getD .nothing)
    if t == .endOfFile then return ← atEnd s.tree
    tokenAgain
    if s.mayEnd && t.endsList then return .inr (s.tree.getD .nothing)
    let next ← andOr again
    let t ← nextToken again
    let next := if t == .ampersand then inBackground next else next
    let tree := match s.tree with
      | some tree => .sequence tree next
      | none => next
    match t with
    | .endOfFile => atEnd (some tree)
    | .newline =>
      tokenAgain
      return .inl ⟨some tree, !isLine⟩
    | .ampersand | .semicolon => return .inl ⟨some tree, !isLine⟩
    | _ =>
      if isLine then unexpected none
      tokenAgain
      return .inr tree

/-- Reads what is asked for; `again` reads what is inside it. -/
def goal (again : Goal → Parser Tree) : Goal → Parser Tree
  | .line => list again true false
  | .list mayBeEmpty => list again false mayBeEmpty
  | .enclosed => do
    let body ← list again false true
    expect again .closeParen
    let awaited := (← get).awaited
    modify fun p => { p with
      awaited := [], documents := awaited.map (fun a => (a.number, ⟨[], a.expands⟩)) ++ p.documents }
    return body
  | .command => command again

/-- Reads what is asked for, down to a depth. -/
def nested : (depth : Nat) → Goal → Parser Tree
  | 0, _ => wrong (bytesOf "too deep")
  | depth + 1, g => goal (nested depth) g

/-- How deep commands may stand in each other. -/
def depthLimit : Nat := 4000

end Parser

/-- What was read of a script. -/
inductive Parsed where
  /-- There is nothing more. -/
  | finished
  | commands (tree : Tree)
  deriving Inhabited

/-- Reads the next line of commands. -/
def Parsing.nextCommands (p : Parsing) : Except Trouble (Parsed × Parsing) :=
  let read : Parser Parsed := do
    let tree ← Parser.nested Parser.depthLimit .line
    let atEnd := (← get).again && (← get).last == .endOfFile
    match tree with
    | .nothing => return if atEnd then .finished else .commands .nothing
    | tree => return .commands tree
  match read.run { p with again := false, look := {}, awaited := [] } with
  | (.ok parsed, p) => .ok (parsed, p)
  | (.error e, _) => .error e

/-- Whether a script was read to its end. -/
def Parsing.atEnd (p : Parsing) : Bool := p.again && p.last == .endOfFile

end Frontier.Shell
