/-!
# Transactions

Every operation runs in one transaction. Transactions are numbered from 1 on; a new one retires the one that is
still open, and only the newest may publish, once. A reader of publications drops those with a number below
one already seen.
-/

namespace Frontier

/-- What an operation was begun for. -/
inductive Reason where
  | stepForward
  | stepBackward
  | goToCursor
  | recovery
  | retraction
  | reset
  deriving DecidableEq, Repr, Inhabited

/-- The name of a reason. -/
def Reason.name : Reason → String
  | .stepForward => "step_forward"
  | .stepBackward => "step_backward"
  | .goToCursor => "go_to_cursor"
  | .recovery => "recovery"
  | .retraction => "retraction"
  | .reset => "reset"

/-- Every reason. -/
def Reason.all : List Reason := [.stepForward, .stepBackward, .goToCursor, .recovery, .retraction, .reset]

/-- The right of one operation to publish. -/
structure Transaction where
  id : Nat
  reason : Reason
  deriving DecidableEq, Repr, Inhabited

/-- The number last given out, and the transaction that is open. -/
structure TransactionLog where
  lastId : Nat := 0
  current : Option Transaction := none
  deriving DecidableEq, Repr, Inhabited

namespace TransactionLog

/-- Opens a transaction; one that is still open is retired. -/
def begin (l : TransactionLog) (reason : Reason) : TransactionLog × Transaction :=
  let t := ⟨l.lastId + 1, reason⟩
  (⟨l.lastId + 1, some t⟩, t)

/-- Ends a transaction; says whether it was the open one. -/
def finish (l : TransactionLog) (t : Transaction) : TransactionLog × Bool :=
  match l.current with
  | some opened => if opened.id = t.id then ({ l with current := none }, true) else (l, false)
  | none => (l, false)

end TransactionLog

/-- The highest transaction number that a reader of publications has accepted. -/
structure PublicationFilter where
  highest : Option Nat := none
  deriving DecidableEq, Repr, Inhabited

namespace PublicationFilter

/-- Accepts a number unless a higher one has been seen. -/
def accept (f : PublicationFilter) (id : Nat) : PublicationFilter × Bool :=
  match f.highest with
  | some h => if id < h then (f, false) else (⟨some id⟩, true)
  | none => (⟨some id⟩, true)

end PublicationFilter
end Frontier
