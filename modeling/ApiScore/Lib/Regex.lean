import Mathlib.Data.List.Basic

/-!
# Regular expressions

Patterns over any alphabet, with the anchors and the word boundaries that programs write, and what
they find in a text.

* `Regex`, `Regex.run` — a pattern, and whether it matches from a place on.
* `Regex.test` — whether it matches anywhere.
-/

set_option autoImplicit false

inductive Regex (α : Type)
  | empty
  /-- One character of a class. -/
  | char (p : α → Bool)
  /-- At least `least` characters of a class, and at most so many more. -/
  | many (p : α → Bool) (least : Nat) (more : Option Nat)
  | seq (r s : Regex α)
  | alt (r s : Regex α)
  /-- The place between a word and what is not one. -/
  | boundary
  | start
  | stop

namespace Regex

variable {α : Type}

/-- One after the other. -/
def cat (rs : List (Regex α)) : Regex α := rs.foldr seq empty

/-- Any of them. -/
def any (rs : List (Regex α)) (r : Regex α) : Regex α := rs.foldr alt r

/-- `r?`. -/
def opt (r : Regex α) : Regex α := alt r empty

/-- From a place on, after the character `before`: characters of a class, then what `next` asks. -/
def runMany (p : α → Bool) (next : Option α → List α → Bool) :
    Nat → Option Nat → Option α → List α → Bool
  | least, _, before, [] => least == 0 && next before []
  | least + 1, more, _, c :: rest => p c && runMany p next least more (some c) rest
  | 0, more, before, c :: rest =>
    next before (c :: rest) ||
      (more != some 0 && p c && runMany p next 0 (more.map (· - 1)) (some c) rest)

variable (word : α → Bool)

/-- Does the pattern match from a place on, so that the rest satisfies `next`? -/
def run : Regex α → (next : Option α → List α → Bool) → Option α → List α → Bool
  | empty, next, before, rest => next before rest
  | char p, next, _, rest =>
    match rest with
    | [] => false
    | c :: rest => p c && next (some c) rest
  | many p least more, next, before, rest => runMany p next least more before rest
  | seq r s, next, before, rest => run r (run s next) before rest
  | alt r s, next, before, rest => run r next before rest || run s next before rest
  | boundary, next, before, rest => (before.any word != rest.head?.any word) && next before rest
  | start, next, before, rest => before.isNone && next before rest
  | stop, next, before, rest => rest.isEmpty && next before rest

/-- Does the pattern match somewhere from a place on? -/
def search (r : Regex α) : Option α → List α → Bool
  | before, [] => run word r (fun _ _ => true) before []
  | before, c :: rest => run word r (fun _ _ => true) before (c :: rest) || search r (some c) rest

/-- `pattern.test(text)`. -/
def test (r : Regex α) (text : List α) : Bool := search word r none text

end Regex
