import Frontier.Text.Blank
import Frontier.Text.CaseFold
import Frontier.Text.Category

/-!
# Patterns

Patterns describe texts by sets of characters, sequence, choice and repetition, with anchors at the ends of
the text, of its lines and of its words. A search follows all possible matches at once: each of them is a place
where it began and a pattern for what must still follow, and reading a character leads from there to finitely many
others.
-/

namespace Frontier
open Text

/-- A set of characters. -/
inductive CharSet where
  | ranges (rs : List (Nat × Nat))
  /-- The characters of some general categories. -/
  | categories (cs : List Category)
  | union (a b : CharSet)
  | common (a b : CharSet)
  | without (a b : CharSet)
  | complement (a : CharSet)
  /-- All characters that differ from one in the set by case alone. -/
  | folded (a : CharSet)
  deriving DecidableEq, Repr, Inhabited

namespace CharSet

/-- Membership of a code point. -/
def holds : CharSet → Nat → Bool
  | ranges rs, n => inRanges rs n
  | categories cs, n => cs.contains (Category.of n)
  | union a b, n => a.holds n || b.holds n
  | common a b, n => a.holds n && b.holds n
  | without a b, n => a.holds n && !b.holds n
  | complement a, n => !a.holds n
  | folded a, n => (caseVariants n).any a.holds

/-- Membership. -/
def contains (s : CharSet) (c : Char) : Bool := s.holds c.toNat

/-- The set of one character. -/
def single (c : Char) : CharSet := ranges [(c.toNat, c.toNat)]

/-- What is in one of two sets but not in both. -/
def either (a b : CharSet) : CharSet := union (without a b) (without b a)

/-- What words are made of: letters, marks, decimal digits, numbers written by letters, characters that connect or
join, and letters in circles and squares. -/
def wordly : CharSet :=
  union (categories (Category.letters ++ Category.marks ++ [.decimalNumber, .letterNumber, .connectorPunctuation]))
    (ranges [(0x200C, 0x200D), (0x24B6, 0x24E9), (0x1F130, 0x1F149), (0x1F150, 0x1F169), (0x1F170, 0x1F189)])

/-- Whether what stands on one side of a place belongs to a word. Nothing stands before and after a text. -/
def inWord (c : Option Char) : Bool := c.any wordly.contains

end CharSet

/-- A description of texts. -/
inductive Pattern where
  /-- The empty text. -/
  | nothing
  /-- One character of a set. -/
  | one (s : CharSet)
  /-- The empty text, at the start of the whole text. -/
  | textStart
  /-- The empty text, at the end of the whole text. -/
  | textEnd
  /-- The empty text, at the start of a line. -/
  | lineStart
  /-- The empty text, at the end of a line. -/
  | lineEnd
  /-- The empty text, where the characters before and after it belong to words or not, as given. -/
  | wordEdge (before after : Bool)
  | seq (p q : Pattern)
  | either (p q : Pattern)
  | many (p : Pattern)
  deriving DecidableEq, Repr, Inhabited

/-- A place in a text: the characters on its two sides. -/
structure Place where
  before : Option Char
  after : Option Char
  deriving DecidableEq, Repr

namespace Pattern

/-- Whether the empty text at a place is described. -/
def here (place : Place) : Pattern → Bool
  | nothing => true
  | one _ => false
  | textStart => place.before.isNone
  | textEnd => place.after.isNone
  | lineStart => place.before.all (· == '\n')
  | lineEnd => place.after.all (· == '\n')
  | wordEdge before after => CharSet.inWord place.before == before && CharSet.inWord place.after == after
  | seq p q => p.here place && q.here place
  | either p q => p.here place || q.here place
  | many _ => true

/-- A sequence, simplified. -/
def andThen : Pattern → Pattern → Pattern
  | nothing, q => q
  | p, q => seq p q

/-- What may follow the character `c`, which stands after the character `before`: one of these. -/
def after (before : Option Char) (c : Char) : Pattern → List Pattern
  | one s => if s.contains c then [nothing] else []
  | seq p q =>
    let first := (p.after before c).map (·.andThen q)
    if p.here ⟨before, some c⟩ then first ++ q.after before c else first
  | either p q => p.after before c ++ q.after before c
  | many p => (p.after before c).map (·.andThen (many p))
  | _ => []

/-- A match that has begun. -/
structure Thread where
  /-- The text from its beginning on. -/
  start : List Char
  /-- What must still follow. -/
  rest : Pattern
  deriving Repr, Inhabited

/-- Keeps the first of the threads that wait for the same. -/
def distinct (threads : List Thread) : List Thread :=
  threads.foldl (fun kept t => if kept.any (·.rest == t.rest) then kept else kept ++ [t]) []

/-- Searches on in `text`. The threads stand in the order of their beginnings, so that one that is complete makes
those after it worthless; `best` is the beginning of the leftmost complete match so far. -/
def search (p : Pattern) : Option (List Char) → List Thread → Option Char → List Char → Option (List Char)
  | best, threads, before, text =>
    let threads := if best.isNone then distinct (threads ++ [⟨text, p⟩]) else threads
    let place : Place := ⟨before, text.head?⟩
    let earlier := threads.takeWhile fun t => !t.rest.here place
    let best := match threads.drop earlier.length with
      | t :: _ => some t.start
      | [] => best
    match text with
    | [] => best
    | c :: more =>
      if best.isSome && earlier.isEmpty then best
      else
        let next := earlier.flatMap fun t => (t.rest.after before c).map fun rest => { t with rest }
        p.search best (distinct next) (some c) more
termination_by _ _ _ text => text.length

/-- The text from the leftmost match on. -/
def find? (p : Pattern) (text : List Char) : Option (List Char) := p.search none [] none text

end Pattern
end Frontier
