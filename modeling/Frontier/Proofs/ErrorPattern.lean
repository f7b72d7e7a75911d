import Frontier.Desk

/-!
# The default error pattern

Unless the settings say otherwise, an error is an opening bracket, the word `error`, a dash, and anything up to a
closing bracket. What is found depends on brackets alone.
-/

namespace Frontier
open Text

namespace Pattern

/-- A sequence of single characters. -/
def word (cs : List Char) (p : Pattern) : Pattern := cs.foldr (fun c p => seq (one (.ranges [(c.toNat, c.toNat)])) p) p

/-- What follows the dash of an error. -/
def codes : Pattern :=
  seq (many (one (.complement (.union (.ranges []) (.ranges [(93, 93)]))))) (word [']'] nothing)

/-- The default error pattern. -/
def bracketed : Pattern := word "[error-".toList codes

end Pattern

/-- The rules of the default settings. -/
def Rules.standard : Rules := ⟨Pattern.bracketed, "undo \x7bid\x7d.".toList, 0⟩

theorem Settings.rules_default : ({} : Settings).rules = .ok Rules.standard := by rfl

/-- The desk of the default settings. -/
def Desk.standard : Desk where
  engine := { settings := {}, rules := Rules.standard, undo := .startingAt 0 }
  noted := ⟨.idle, 0, 0, true, false⟩

theorem Desk.ofSettings_default : Desk.ofSettings {} = .ok .standard := by
  rw [Desk.ofSettings, Engine.ofSettings, Settings.rules_default]
  rfl

namespace Pattern

theorem bracketed_after {before : Option Char} {c : Char} (other : c ≠ '[') : bracketed.after before c = [] := by
  have apart : c.toNat ≠ 91 := fun same => other (Char.toNat_inj.mp same)
  have fails : (CharSet.ranges [(91, 91)]).contains c = false := by
    simp [CharSet.contains, CharSet.holds, inRanges]
    omega
  simp [bracketed, word, after, here, fails]

/-- A single match that goes on. -/
theorem search_step {start more : List Char} {before : Option Char} {c : Char} {p q : Pattern}
    (begun : p ≠ bracketed) (waits : ∀ place, p.here place = false) (other : c ≠ '[')
    (goes : p.after before c = [q]) :
    bracketed.search none [⟨start, p⟩] before (c :: more) = bracketed.search none [⟨start, q⟩] (some c) more := by
  have idle : ∀ place, bracketed.here place = false := fun _ => rfl
  have two : distinct ([⟨start, p⟩] ++ [⟨c :: more, bracketed⟩]) = [⟨start, p⟩, ⟨c :: more, bracketed⟩] := by
    simp [distinct, begun]
  conv => lhs; unfold search
  simp only [Option.isNone_none, ↓reduceIte, two, List.takeWhile_cons, List.takeWhile_nil, waits, idle, Bool.not_false,
    List.length_cons, List.length_nil, List.drop_succ_cons, List.drop_nil, Option.isSome_none, Bool.false_and,
    Bool.false_eq_true, List.flatMap_cons, List.flatMap_nil, goes, bracketed_after other, List.map_cons, List.map_nil,
    List.append_nil]
  rfl

/-- A match that is complete. -/
theorem search_complete (start text : List Char) (before : Option Char) :
    bracketed.search none [⟨start, nothing⟩] before text = some start := by
  have two : distinct ([⟨start, nothing⟩] ++ [⟨text, bracketed⟩]) = [⟨start, nothing⟩, ⟨text, bracketed⟩] := by
    simp [distinct, bracketed, word]
  unfold search
  simp only [Option.isNone_none, ↓reduceIte, two, List.takeWhile_cons, here, Bool.not_true, Bool.false_eq_true,
    List.length_nil, List.drop_zero, Option.isSome_some, List.isEmpty_nil, Bool.and_self]
  split <;> rfl

theorem search_idle {before : Option Char} {c : Char} {more : List Char} (other : c ≠ '[') :
    bracketed.search none [] before (c :: more) = bracketed.search none [] (some c) more := by
  have idle : ∀ place, bracketed.here place = false := fun _ => rfl
  have one : distinct ([] ++ [⟨c :: more, bracketed⟩]) = [⟨c :: more, bracketed⟩] := rfl
  conv => lhs; unfold search
  simp only [Option.isNone_none, ↓reduceIte, one, List.takeWhile_cons, List.takeWhile_nil, idle, Bool.not_false,
    List.length_cons, List.length_nil, List.drop_succ_cons, List.drop_nil, Option.isSome_none, Bool.false_and,
    Bool.false_eq_true, List.flatMap_cons, List.flatMap_nil, bracketed_after other, List.map_nil, List.append_nil]
  rfl

theorem search_begin {before : Option Char} {more : List Char} :
    bracketed.search none [] before ('[' :: more) =
      bracketed.search none [⟨'[' :: more, word "error-".toList codes⟩] (some '[') more := by
  have idle : ∀ place, bracketed.here place = false := fun _ => rfl
  have one : distinct ([] ++ [⟨'[' :: more, bracketed⟩]) = [⟨'[' :: more, bracketed⟩] := rfl
  have goes : bracketed.after before '[' = [word "error-".toList codes] := rfl
  conv => lhs; unfold search
  simp only [Option.isNone_none, ↓reduceIte, one, List.takeWhile_cons, List.takeWhile_nil, idle, Bool.not_false,
    List.length_cons, List.length_nil, List.drop_succ_cons, List.drop_nil, Option.isSome_none, Bool.false_and,
    Bool.false_eq_true, List.flatMap_cons, List.flatMap_nil, goes, List.map_cons, List.map_nil, List.append_nil]
  rfl

/-- Nothing is found in a text without an opening bracket. -/
theorem find?_none {text : List Char} (h : '[' ∉ text) : bracketed.find? text = none := by
  suffices idle : ∀ before, bracketed.search none [] before text = none from idle none
  intro before
  induction text generalizing before with
  | nil =>
    unfold search
    rfl
  | cons c rest ih =>
    obtain ⟨other, more⟩ : '[' ≠ c ∧ '[' ∉ rest := by simpa using h
    rw [search_idle other.symm, ih more]

theorem codes_after {before : Option Char} {c : Char} (other : c ≠ ']') : codes.after before c = [codes] := by
  have apart : c.toNat ≠ 93 := fun same => other (Char.toNat_inj.mp same)
  have free : (CharSet.complement (.union (.ranges []) (.ranges [(93, 93)]))).contains c = true := by
    simp [CharSet.contains, CharSet.holds, inRanges]
    omega
  have fails : (CharSet.ranges [(93, 93)]).contains c = false := by
    simp [CharSet.contains, CharSet.holds, inRanges]
    omega
  simp [codes, word, after, here, free, fails, andThen]

theorem search_codes {start more cs : List Char} (codes' : ∀ c ∈ cs, c ≠ '[' ∧ c ≠ ']') (before : Option Char) :
    bracketed.search none [⟨start, codes⟩] before (cs ++ ']' :: more) = some start := by
  induction cs generalizing before with
  | nil =>
    rw [List.nil_append, search_step (by decide) (fun _ => rfl) (by decide) (q := nothing) rfl, search_complete]
  | cons c rest ih =>
    obtain ⟨⟨open', close⟩, others⟩ := List.forall_mem_cons.mp codes'
    rw [List.cons_append, search_step (by decide) (fun _ => rfl) open' (codes_after close), ih others]

/-- An error at the head of a text is found there. -/
theorem find?_error {cs : List Char} (codes' : ∀ c ∈ cs, c ≠ '[' ∧ c ≠ ']') (more : List Char) :
    bracketed.find? ("[error-".toList ++ (cs ++ ']' :: more)) = some ("[error-".toList ++ (cs ++ ']' :: more)) := by
  have letters : "[error-".toList = ['[', 'e', 'r', 'r', 'o', 'r', '-'] := rfl
  simp only [find?, letters, List.cons_append, List.nil_append]
  rw [search_begin, search_step (by decide) (fun _ => rfl) (by decide) rfl,
    search_step (by decide) (fun _ => rfl) (by decide) rfl, search_step (by decide) (fun _ => rfl) (by decide) rfl,
    search_step (by decide) (fun _ => rfl) (by decide) rfl, search_step (by decide) (fun _ => rfl) (by decide) rfl,
    search_step (by decide) (fun _ => rfl) (by decide) (q := codes) rfl, search_codes codes']

end Pattern

namespace Rules

theorem error?_none {output : String} (h : '[' ∉ output.toList) : standard.error? output = none := by
  simp [error?, standard, Pattern.find?_none h]

theorem error?_some {output : String} {cs more : List Char} (codes : ∀ c ∈ cs, c ≠ '[' ∧ c ≠ ']')
    (h : output.toList = "[error-".toList ++ (cs ++ ']' :: more)) :
    standard.error? output = some (String.ofList (trim output.toList)) := by
  rw [error?, standard, h, Pattern.find?_error codes]
  rfl

end Rules
end Frontier
