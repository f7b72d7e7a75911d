import Frontier.Json.Value

/-!
# Values as JSON

`Form α` says how a value of type `α` is written as JSON and read back. A record is written as an object with
its fields in a fixed order. It is read from an object, where the order does not matter and unknown keys are
passed over but no known key may come twice, or from an array of all its fields.
-/

namespace Frontier.Json
open Text

/-- How values of a type are written and read. -/
class Form (α : Type) where
  encode : α → Json
  decode? : Json → Option α

open Form (encode decode?)

/-- The compact text of a value. -/
def print {α : Type} [Form α] (a : α) : String := String.ofList (write (encode a))

/-- Reads a value from its text. -/
def scan? {α : Type} [Form α] (text : String) : Option α := (parse? text.toList).bind decode?

/-! ## Scalars -/

instance : Form Bool where
  encode := .bool
  decode?
    | .bool b => some b
    | _ => none

instance : Form String where
  encode s := .text s.toList
  decode?
    | .text s => some (String.ofList s)
    | _ => none

/-- Offsets, counts and state numbers are below 2^64. -/
instance : Form Nat where
  encode n := .int n
  decode?
    | .int (.ofNat n) => if n ≤ maxWord then some n else none
    | _ => none

/-- Exit codes have 32 bits. -/
instance : Form Int where
  encode := .int
  decode?
    | .int n => if -2147483648 ≤ n ∧ n ≤ 2147483647 then some n else none
    | _ => none

/-- Every item must be readable. -/
instance {α : Type} [Form α] : Form (List α) where
  encode xs := .array (xs.map encode)
  decode?
    | .array xs => xs.mapM decode?
    | _ => none

/-- A missing value is null. -/
instance {α : Type} [Form α] : Form (Option α) where
  encode
    | some a => encode a
    | none => .null
  decode?
    | .null => some none
    | j => (decode? j).map some

/-- Names, by a list of the values that have one. A name is read from a string, or from an object that maps it
to null. -/
def named? {α : Type} (name : α → String) (all : List α) (j : Json) : Option α :=
  match j with
  | .text s => all.find? fun a => (name a).toList == s
  | .object [(s, .null)] => all.find? fun a => (name a).toList == s
  | _ => none

/-! ## Records -/

/-- The members of a record, without those that have no value. -/
def members (ms : List (String × Option Json)) : Json :=
  .object (ms.filterMap fun (k, j) => j.map fun j => (k.toList, j))

/-- A member that is always written. -/
def member {α : Type} [Form α] (key : String) (a : α) : String × Option Json := (key, some (encode a))

/-- A member that is written only when there is a value. -/
def member? {α : Type} [Form α] (key : String) (a : Option α) : String × Option Json := (key, a.map encode)

/-- The values of an object's keys; none if one of them comes twice. -/
def pick? (keys : List String) (ms : List (List Char × Json)) : Option (List (Option Json)) :=
  keys.mapM fun key =>
    match ms.filter fun m => m.1 == key.toList with
    | [] => some none
    | [m] => some (some m.2)
    | _ => none

/-- The values of a record's fields, from an object or an array. -/
def fields? (keys : List String) : Json → Option (List (Option Json))
  | .object ms => pick? keys ms
  | .array xs => if xs.length = keys.length then some (xs.map some) else none
  | _ => none

/-- A field that must be there. -/
def need {α : Type} [Form α] (field : Option Json) : Option α := field.bind decode?

/-- A field that may be missing. -/
def may {α : Type} [Form α] : Option Json → Option (Option α)
  | none => some none
  | some j => decode? j

end Frontier.Json
