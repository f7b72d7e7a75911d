import Frontier.Machine.Bytes

/-!
# The language of the shell

Words are made of pieces; commands are made of words, redirections and other commands. The bodies of
here-documents stand in a table beside the tree, because they come after the command in the text.

The shell is one of the programs that a machine is launched with. It only serves to run sessions; no theorem is about
it.
-/

namespace Frontier.Shell

/-- What is done to the value of a parameter. -/
inductive Form where
  | plain
  /-- `-`: a word in place of a value that is missing. -/
  | orElse
  /-- `+`: a word in place of a value that is there. -/
  | andThen
  /-- `?`: a message if the value is missing. -/
  | orFail
  /-- `=`: a word that the parameter is set to if its value is missing. -/
  | orSet
  /-- `%`, `%%`, `#` and `##`: a part that fits a pattern is taken away at an end. -/
  | trim (atEnd longest : Bool)
  | length
  /-- No form at all. -/
  | wrong
  deriving DecidableEq, Repr, Inhabited

/-- How a redirection opens a file. -/
inductive Opening where
  | reads
  | writes
  /-- Writes, also where that is guarded against. -/
  | clobbers
  | appends
  | readsAndWrites
  deriving DecidableEq, Repr, Inhabited

mutual

/-- A piece of a word. -/
inductive Piece where
  | plain (c : Char)
  /-- A quoted character. -/
  | quoted (c : Char)
  /-- A quotation begins or ends. -/
  | mark
  | parameter (name : Bytes) (form : Form) (orEmpty : Bool) (word : List Piece)
  | substitution (body : Tree)
  | arithmetic (expression : List Piece)

/-- A redirection of a descriptor. -/
inductive Redirection where
  | file (descriptor : Nat) (opening : Opening) (name : List Piece)
  /-- To another descriptor, or to none. -/
  | copy (descriptor : Nat) (source : Option Nat)
  /-- To the descriptor that a word names. -/
  | copyNamed (descriptor : Nat) (name : List Piece)
  /-- To a here-document, by its number. -/
  | here (descriptor number : Nat)

/-- A command. Lines are kept for messages. -/
inductive Tree where
  | nothing
  | simple (line : Nat) (assignments args : List (List Piece)) (redirections : List Redirection)
  | pipeline (inBackground : Bool) (parts : List Tree)
  | redirected (line : Nat) (body : Tree) (redirections : List Redirection)
  | background (line : Nat) (body : Tree) (redirections : List Redirection)
  | subshell (line : Nat) (body : Tree) (redirections : List Redirection)
  | both (first second : Tree)
  | either (first second : Tree)
  | sequence (first second : Tree)
  | choice (test yes no : Tree)
  | loop (untilDone : Bool) (test body : Tree)
  | each (line : Nat) (name : Bytes) (words : List (List Piece)) (body : Tree)
  | cases (line : Nat) (word : List Piece) (branches : List (List (List Piece) × Tree))
  | function (line : Nat) (name : Bytes) (body : Tree)
  | negation (body : Tree)

end

instance : Inhabited Tree := ⟨.nothing⟩
instance : Inhabited Piece := ⟨.mark⟩
instance : Inhabited Redirection := ⟨.copy 0 none⟩

/-- A word. -/
abbrev Word := List Piece

/-- A here-document: its text, and whether that is expanded. -/
structure Document where
  text : Word
  expands : Bool
  deriving Inhabited

/-- Whether a name can begin with a character. -/
def beginsName (c : Char) : Bool := c == '_' || ('a' ≤ c && c ≤ 'z') || ('A' ≤ c && c ≤ 'Z')

/-- Whether a character can stand in a name. -/
def inName (c : Char) : Bool := beginsName c || c.isDigit

/-- Whether a text is a name. -/
def isName (text : Bytes) : Bool := text.head?.any beginsName && text.all inName

/-- Whether a parameter has a character as its name. -/
def isSpecial (c : Char) : Bool := "#?$!-*@".toList.contains c

/-- The characters of a word that is nothing but plain characters. -/
def plainText? : Word → Option Bytes
  | [] => some []
  | .plain c :: rest => (plainText? rest).map (c :: ·)
  | _ => none

/-- The plain characters at the head of a word. -/
def plainHead : Word → Bytes
  | .plain c :: rest => c :: plainHead rest
  | _ => []

/-- Whether a word begins with a name and an equals sign. -/
def isAssignment (word : Word) : Bool :=
  let head := plainHead word
  let name := head.takeWhile inName
  isName name && (head.drop name.length).head? == some '='

end Frontier.Shell
