/-!
# Nesting

How deep an operand of a word list may sit: each bracket around it counts one, and so does each
`not` before it or before such a bracket. The count is made in one pass and works on every word
list, also on one whose brackets do not match.

* `deepest_step`: taking a word never lowers the count.
-/

namespace RuleVerdict.Logic

/-- What is known after some words: what each open bracket counts, the sum of that, the `not`s that
wait for their operand, and the deepest point so far. -/
structure Nesting where
  frames : List Nat
  depth : Nat
  negations : Nat
  deepest : Nat
  deriving DecidableEq

namespace Nesting

/-- Before the first word. -/
def start : Nesting := ⟨[], 0, 0, 0⟩

/-- Notes the depth that has been reached. -/
def note (s : Nesting) : Nesting := { s with deepest := max s.deepest (s.depth + s.negations) }

/-- Takes the next word. -/
def step (s : Nesting) (w : String) : Nesting :=
  note <|
    if w = "not" then { s with negations := s.negations + 1 }
    else if w = "(" then
      { s with
        frames := (s.negations + 1) :: s.frames
        depth := s.depth + (s.negations + 1)
        negations := 0 }
    else if w = ")" then
      { s with frames := s.frames.tail, depth := s.depth - s.frames.head?.getD 0 }
    else { s with negations := 0 }

theorem deepest_step (s : Nesting) (w : String) : s.deepest ≤ (s.step w).deepest := by
  unfold step note
  split <;> (try split) <;> (try split) <;> exact Nat.le_max_left ..

end Nesting

/-- The depth of the deepest point of a word list. -/
def nesting (ws : List String) : Nat := (ws.foldl Nesting.step .start).deepest

/-- The depth up to which a word list is read into a formula. -/
def nestingLimit : Nat := 256

end RuleVerdict.Logic
