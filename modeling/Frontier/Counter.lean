import Frontier.Marker

/-!
# Counting the responses to one command

A counter is fed the prover's output in chunks, which may cut markers anywhere, and collects one segment per
response marker. In a session that has shown no marker yet, a first marker with the startup id is the
startup prompt and answers nothing.
-/

namespace Frontier
open Text

/-- What the prover printed for one statement, up to the marker that closes it. -/
structure Segment where
  output : String
  marker : Marker
  deriving DecidableEq, Repr, Inhabited

/-- What a command's output has shown so far. -/
structure Counter where
  /-- The startup id, until the first marker. -/
  startup : Option Nat := none
  /-- Whether the startup prompt was seen. -/
  ignored : Bool := false
  /-- The ids of all markers, in order. -/
  ids : List Nat := []
  segments : List Segment := []
  /-- The output after the last marker. -/
  carry : List Char := []
  deriving DecidableEq, Repr, Inhabited

namespace Counter

/-- A counter for the first command of a session that has shown no marker yet. -/
def awaiting (startup : Nat) : Counter := { startup := some startup }

/-- Accounts for one marker and the text before it. -/
def take (c : Counter) : List Char × Marker.Written → Counter
  | (text, written) =>
    match written.marker? with
    | none => c
    | some m =>
      if c.startup = some m.id then { c with startup := none, ignored := true, ids := c.ids ++ [m.id] }
      else { c with
        startup := none
        ids := c.ids ++ [m.id]
        segments := c.segments ++ [⟨String.ofList (trimBoth isLineEnd text), m⟩] }

/-- Accounts for a chunk of output. -/
def feed (c : Counter) (chunk : String) : Counter :=
  let (found, trailing) := Marker.split (c.carry ++ chunk.toList)
  { found.foldl take c with carry := trailing }

/-- How many responses have been counted. -/
def responses (c : Counter) : Nat := c.segments.length

/-- How many markers have been seen, the startup prompt included. -/
def total (c : Counter) : Nat := c.ids.length

/-- The output after the last marker. -/
def trailing (c : Counter) : String := String.ofList c.carry

end Counter
end Frontier
