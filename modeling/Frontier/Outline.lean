import Frontier.Statement
import Frontier.Search

/-!
# The outline of a document

The statements of one version of a document, kept until its length or version changes, and the questions
that a cursor asks of them. All lookups are binary searches over the ordered statements.
-/

namespace Frontier

/-- Statements found in the document with the given byte length and version. -/
structure Outline where
  statements : Array Statement := #[]
  key : Option (Nat × Int) := none
  deriving Repr, Inhabited, DecidableEq

namespace Outline

/-- Reads a document anew unless its byte length and version are those already read; says whether it did. -/
def update (o : Outline) (script : String) (version : Int) : Outline × Bool :=
  let key := (script.utf8ByteSize, version)
  if o.key = some key then (o, false)
  else (⟨(Statement.all script).toArray, some key⟩, true)

/-- Forgets the document. -/
def clear (_ : Outline) : Outline := {}

/-- The version last read. -/
def version (o : Outline) : Option Int := o.key.map (·.2)

/-- The end of the statement before the one at index `i`, or 0. -/
def endBefore (o : Outline) (i : Nat) : Nat :=
  if i = 0 then 0 else (o.statements[i - 1]?.map (·.stop)).getD 0

/-- The boundary that a cursor selects: the end of the statement that contains it, else the nearest end
before it, else 0. -/
def boundaryAt (o : Outline) (cursor : Nat) : Nat :=
  let i := partitionPoint (·.stop < cursor) o.statements
  match o.statements[i]? with
  | some s => if s.start ≤ cursor then s.stop else o.endBefore i
  | none => o.endBefore i

/-- The statements that end at or before an offset. -/
def upTo (o : Outline) (offset : Nat) : List Statement :=
  o.statements.toList.filter (·.stop ≤ offset)

/-- The statements that lie within two offsets. -/
def within (o : Outline) (start stop : Nat) : List Statement :=
  o.statements.toList.filter fun s => start ≤ s.start && s.stop ≤ stop

/-- How many statements end at or before an offset. -/
def countUpTo (o : Outline) (offset : Nat) : Nat := partitionPoint (·.stop ≤ offset) o.statements

/-- The first statement that starts at or after an offset. -/
def next? (o : Outline) (offset : Nat) : Option Statement :=
  o.statements[partitionPoint (·.start < offset) o.statements]?

/-- The end of the last statement that ends strictly before an offset, or 0. -/
def previousEnd (o : Outline) (offset : Nat) : Nat :=
  o.endBefore (partitionPoint (·.stop < offset) o.statements)

/-- The end of the last statement that ends at or before an offset, or 0. -/
def boundaryUpTo (o : Outline) (offset : Nat) : Nat := o.endBefore (o.countUpTo offset)

end Outline
end Frontier
