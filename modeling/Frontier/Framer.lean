import Frontier.Marker
import Frontier.Text.Utf8

/-!
# Framing the prover's output

Output arrives as bytes, cut anywhere. A framer holds them back until a marker line is complete: a marker,
blanks, and a line end. It then releases all bytes up to the last complete marker line, so that no reader
sees a response cut inside a marker.
-/

namespace Frontier
open Text

/-- Bytes held back until a marker line completes. -/
structure Framer where
  pending : List UInt8 := []
  deriving DecidableEq, Repr, Inhabited

namespace Framer

/-- A space or a tab. -/
def isSpace (b : UInt8) : Bool := b == 0x20 || b == 0x09

/-- The bytes after the line end at the head. -/
def lineEnd? : List UInt8 → Option (List UInt8)
  | 0x0A :: rest => some rest
  | 0x0D :: 0x0A :: rest => some rest
  | _ => none

/-- The bytes after the marker line at the head. A marker with a flaw inside is none. -/
def markerLine? : List UInt8 → Option (List UInt8)
  | 0x5B :: bs =>
    let digits := Utf8.dropWhile isDecimalDigit bs
    if digits.length == bs.length then none
    else match digits with
      | 0x7C :: tail =>
        match Utf8.dropWhile Marker.isTagChar tail with
        | 0x5D :: 0x3E :: rest => lineEnd? (rest.dropWhile isSpace)
        | _ => none
      | _ => none
  | _ => none

theorem lineEnd?_length {bs rest : List UInt8} (h : lineEnd? bs = some rest) : rest.length < bs.length := by
  unfold lineEnd? at h
  split at h <;> cases h <;> simp only [List.length_cons] <;> omega

theorem dropWhile_isSpace_length (bs : List UInt8) : (bs.dropWhile isSpace).length ≤ bs.length :=
  (List.dropWhile_sublist isSpace).length_le

theorem markerLine?_length {bs rest : List UInt8} (h : markerLine? bs = some rest) : rest.length < bs.length := by
  unfold markerLine? at h
  split at h
  · next bs =>
    simp only at h
    split at h
    · cases h
    · split at h
      · next tail bar =>
        split at h
        · next more close =>
          have a := Utf8.dropWhile_length isDecimalDigit bs
          have b := Utf8.dropWhile_length Marker.isTagChar tail
          have c := dropWhile_isSpace_length more
          have d := lineEnd?_length h
          rw [bar] at a
          rw [close] at b
          simp only [List.length_cons] at *
          omega
        · cases h
      · cases h
  · cases h

/-- The bytes after the last complete marker line; `none` when there is no such line. -/
def afterLast? (bs : List UInt8) : Option (List UInt8) :=
  match _h : markerLine? bs with
  | some rest => some ((afterLast? rest).getD rest)
  | none =>
    match bs with
    | [] => none
    | _ :: rest => afterLast? rest
termination_by bs.length
decreasing_by
  · exact markerLine?_length _h
  · simp

/-- Adds bytes; releases the text up to the last marker line, if one is complete. -/
def push (f : Framer) (bs : List UInt8) : Framer × Option String :=
  let held := f.pending ++ bs
  match afterLast? held with
  | none => (⟨held⟩, none)
  | some rest => (⟨rest⟩, some (String.ofList (Utf8.lenient (held.take (held.length - rest.length)))))

/-- Releases what is left, as at the end of the output. -/
def flush (f : Framer) : Framer × Option String :=
  if f.pending.isEmpty then (f, none) else ({}, some (String.ofList (Utf8.lenient f.pending)))

end Framer
end Frontier
