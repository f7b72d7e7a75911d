import Frontier.Shell.Syntax

/-!
# Reading a script

A script is read character by character. Some of it may be read again, and the value of an alias is read in place
of its name. What is read is a token: an operator, a word, or a word with a meaning of its own.
-/

namespace Frontier.Shell

/-- Words that are part of the language where a command may begin. -/
inductive Keyword where
  | not | case | do | done | elif | else | esac | fi | for | if | in | then | until | while | open | close
  deriving DecidableEq, Repr, Inhabited

/-- A token. -/
inductive Token where
  | endOfFile
  | newline
  | semicolon
  | ampersand
  | and
  | or
  | bar
  | openParen
  | closeParen
  | endCase
  | redirection
  | word
  | keyword (k : Keyword)
  deriving DecidableEq, Repr, Inhabited

/-- The keywords as they are written. -/
def keywords : List (String × Keyword) :=
  [("!", .not), ("case", .case), ("do", .do), ("done", .done), ("elif", .elif), ("else", .else), ("esac", .esac),
    ("fi", .fi), ("for", .for), ("if", .if), ("in", .in), ("then", .then), ("until", .until), ("while", .while),
    ("\x7b", .open), ("\x7d", .close)]

/-- A token as messages name it. -/
def Token.shown : Token → String
  | .endOfFile => "end of file"
  | .newline => "newline"
  | .semicolon => "\";\""
  | .ampersand => "\"&\""
  | .and => "\"&&\""
  | .or => "\"||\""
  | .bar => "\"|\""
  | .openParen => "\"(\""
  | .closeParen => "\")\""
  | .endCase => "\";;\""
  | .redirection => "redirection"
  | .word => "word"
  | .keyword k => "\"" ++ ((keywords.find? (·.2 == k)).map (·.1)).getD "" ++ "\""

/-- Whether a list of commands may end before a token. -/
def Token.endsList : Token → Bool
  | .endOfFile | .closeParen | .endCase => true
  | .keyword k => [.do, .done, .elif, .else, .esac, .fi, .then, .close].contains k
  | _ => false

/-- What is looked for when the next token is read. -/
structure Look where
  /-- Newlines are passed. -/
  newlines : Bool := false
  keywords : Bool := false
  aliases : Bool := false
  /-- The word ends a here-document; nothing in it is expanded. -/
  delimiter : Bool := false
  deriving DecidableEq, Repr, Inhabited

/-- A here-document whose text was not read yet. -/
structure Awaited where
  number : Nat
  delimiter : Bytes
  expands : Bool
  stripsTabs : Bool
  deriving Repr, Inhabited

/-- The value of an alias that is being read, and the text after its name. -/
structure AliasText where
  name : Bytes
  endsBlank : Bool
  rest : Bytes
  deriving Repr, Inhabited

/-- A redirection whose name was not read yet. -/
inductive Begun where
  | file (descriptor : Nat) (opening : Opening)
  | copy (descriptor : Nat)
  | here (descriptor : Nat) (stripsTabs : Bool)
  deriving Repr, Inhabited

/-- How far a script has been read. -/
structure Parsing where
  text : Bytes
  /-- Whether nothing more will come after the text. -/
  isWhole : Bool := true
  line : Nat := 1
  outer : List AliasText := []
  aliases : List (Bytes × Bytes) := []
  /-- Whether the last token is to be read again. -/
  again : Bool := false
  last : Token := .newline
  word : Word := []
  /-- Whether something in the word was quoted. -/
  wordQuoted : Bool := false
  look : Look := {}
  begun : Begun := .copy 0
  awaited : List Awaited := []
  documents : List (Nat × Document) := []
  /-- The number of the next here-document. -/
  nextDocument : Nat := 0
  deriving Inhabited

/-- Why a script cannot be read on. -/
inductive Trouble where
  /-- It breaks the rules, at a line. -/
  | wrong (message : Bytes) (line : Nat)
  /-- There must be more of it. -/
  | incomplete
  deriving Repr, Inhabited

/-- Reading a script. -/
abbrev Parser := ExceptT Trouble (StateM Parsing)

namespace Parser

/-- A message about the script. -/
def wrong {α : Type} (message : Bytes) : Parser α := do throw (.wrong (bytesOf "Syntax error: " ++ message) (← get).line)

/-- A token does not fit. -/
def unexpected {α : Type} (expected : Option Token) : Parser α := do
  let shown := (← get).last.shown ++ " unexpected"
  wrong (bytesOf (match expected with
    | some t => shown ++ " (expecting " ++ t.shown ++ ")"
    | none => shown))

/-- How many aliases may end at one place. -/
def aliasLimit : Nat := 1000

/-- Leaves values of aliases that have been read. -/
def leaveAliases : Nat → Parsing → Parsing
  | 0, p => p
  | n + 1, p =>
    match p.text, p.outer with
    | [], a :: outer =>
      leaveAliases n { p with text := a.rest, outer, look.aliases := p.look.aliases || a.endsBlank }
    | _, _ => p

/-- Reads a character; none at the end of the script. -/
def next : Parser (Option Char) := do
  let p := leaveAliases aliasLimit (← get)
  match p.text with
  | c :: rest =>
    set { p with text := rest }
    return some c
  | [] =>
    set p
    if p.isWhole then return none else throw .incomplete

/-- Has a character read again. -/
def unread : Option Char → Parser Unit
  | some c => modify fun p => { p with text := c :: p.text }
  | none => pure ()

/-- A line has ended. -/
def countLine : Parser Unit := modify fun p => { p with line := p.line + 1 }

/-- How many lines may be joined at one place. -/
def joinLimit : Nat := 1000000

/-- Reads a character after joining lines that end in a backslash. -/
def nextJoined : (fuel : Nat) → Parser (Option Char)
  | 0 => next
  | fuel + 1 => do
    match ← next with
    | some '\\' =>
      match ← next with
      | some '\n' =>
        countLine
        nextJoined fuel
      | c =>
        unread c
        return some '\\'
    | c => return c

/-- Reads a character after joining lines. -/
def nextChar : Parser (Option Char) := nextJoined joinLimit

/-- Returns a token. -/
def token (t : Token) : Parser Token := do
  modify fun p => { p with last := t }
  return t

/-- Has the last token read again. -/
def tokenAgain : Parser Unit := modify fun p => { p with again := true }

/-- Sets what is looked for at the next token. -/
def lookFor (look : Look) : Parser Unit := modify fun p => { p with look }

/-- Passes a comment up to the end of its line. -/
def passComment : Parser Unit := do
  let rec pass : Nat → Parser Unit
    | 0 => pure ()
    | fuel + 1 => do
      match ← next with
      | some '\n' => unread (some '\n')
      | none => pure ()
      | some _ => pass fuel
  pass ((← get).text.length + ((← get).outer.map (·.rest.length)).foldl (· + ·) 1)

end Parser
end Frontier.Shell
