import Frontier.Machine.Bytes

/-!
# Patterns of the shell

In patterns of `case`, of parameters and of file names, a star stands for any text, a question mark for any
character, and brackets for one character of a set. A quoted character stands for itself.
-/

namespace Frontier.Shell

/-- A character of a pattern, and whether it is quoted. -/
abbrev Glyph := Char × Bool

namespace Glob

/-- The classes of characters that have names. -/
def classes : List (String × (Char → Bool)) :=
  [("alnum", Char.isAlphanum), ("alpha", Char.isAlpha), ("blank", fun c => c == ' ' || c == '\t'),
    ("cntrl", fun c => c.toNat < 32 || c.toNat == 127), ("digit", Char.isDigit),
    ("graph", fun c => 32 < c.toNat && c.toNat < 127), ("lower", Char.isLower),
    ("print", fun c => 32 ≤ c.toNat && c.toNat < 127),
    ("punct", fun c => 32 < c.toNat && c.toNat < 127 && !c.isAlphanum), ("space", Bytes.isSpace),
    ("upper", Char.isUpper), ("xdigit", fun c => Bytes.digitValue c < 16)]

/-- A backslash that is not quoted quotes the next character. -/
def unescaped : List Glyph → List Glyph
  | [] => []
  | ('\\', false) :: (c, _) :: rest => (c, true) :: unescaped rest
  | g :: rest => g :: unescaped rest

/-- The class with a name in brackets and colons, after the opening bracket; and what follows it. -/
def namedClass? (glyphs : List Glyph) : Option ((Char → Bool) × List Glyph) :=
  match glyphs with
  | (':', _) :: rest =>
    classes.findSome? fun (name, holds) =>
      let closed := bytesOf name ++ [':', ']']
      if (rest.take closed.length).map (·.1) == closed then some (holds, rest.drop closed.length) else none
  | _ => none

/-- Bytes are compared as numbers with a sign. -/
def signed (c : Char) : Int := if 128 ≤ c.toNat then (c.toNat : Int) - 256 else c.toNat

/-- Whether a set, after its opening, holds a character, and what follows it; none if the set does not end. -/
def inSet? (c : Char) : (fuel : Nat) → (found isFirst : Bool) → List Glyph → Option (Bool × List Glyph)
  | 0, _, _, _ => none
  | _ + 1, _, _, [] => none
  | fuel + 1, found, isFirst, (d, q) :: rest =>
    if d == ']' && !q && !isFirst then some (found, rest)
    else
      match if d == '[' && !q then namedClass? rest else none with
      | some (holds, rest) => inSet? c fuel (found || holds c) false rest
      | none =>
        match rest with
        | ('-', false) :: (e, r) :: more =>
          if e == ']' && !r then inSet? c fuel (found || c == d) false rest
          else inSet? c fuel (found || (signed d ≤ signed c && signed c ≤ signed e)) false more
        | _ => inSet? c fuel (found || c == d) false rest

/-- Whether a pattern matches a whole text. The parts of `fuel` are used for the pattern, those of the text for the
stars. -/
def matchesFrom : (fuel : Nat) → List Glyph → Bytes → Bool
  | 0, _, _ => false
  | _ + 1, [], text => text.isEmpty
  | fuel + 1, ('*', false) :: rest, text =>
    let rest := rest.dropWhile (· == ('*', false))
    rest.isEmpty || anySuffix fuel rest text
  | fuel + 1, ('?', false) :: rest, text =>
    match text with
    | _ :: text => matchesFrom fuel rest text
    | [] => false
  | fuel + 1, ('[', false) :: rest, text =>
    match text with
    | [] => false
    | c :: more =>
      let (inverted, set) := match rest with
        | ('!', false) :: set | ('^', false) :: set => (true, set)
        | set => (false, set)
      match inSet? c (set.length + 1) false true set with
      | some (found, after) => found != inverted && matchesFrom fuel after more
      | none => c == '[' && matchesFrom fuel rest more
  | fuel + 1, (d, _) :: rest, text =>
    match text with
    | c :: text => c == d && matchesFrom fuel rest text
    | [] => false
where
  anySuffix (fuel : Nat) (rest : List Glyph) : Bytes → Bool
    | [] => matchesFrom fuel rest []
    | c :: text => matchesFrom fuel rest (c :: text) || anySuffix fuel rest text

/-- Whether a pattern matches a whole text. -/
def accepts (pattern : List Glyph) (text : Bytes) : Bool :=
  let pattern := unescaped pattern
  matchesFrom (pattern.length + 1) pattern text

/-- How many characters a match takes away at the head or at the end of a text: the fewest or the most. -/
def trimmed (atEnd longest : Bool) (pattern : List Glyph) (text : Bytes) : Nat :=
  let lengths := List.range (text.length + 1)
  let part (n : Nat) : Bytes := if atEnd then text.drop (text.length - n) else text.take n
  ((if longest then lengths.reverse else lengths).find? fun n => accepts pattern (part n)).getD 0

/-- Whether a pattern has characters that stand for others. -/
def isPattern (pattern : List Glyph) : Bool :=
  pattern.any fun g => !g.2 && (g.1 == '*' || g.1 == '?' || g.1 == '[')

end Glob
end Frontier.Shell
