import RuleVerdict.Logic.Segment

/-!
# Spans of a word list

The segments of a word list by position. One pass over the words counts the open brackets and keeps
the position of the outermost one; what it finds are spans, from one position up to another. The
list is then cut at the positions where a word stands outside brackets, and the operands are taken
out of it between the cuts.

* `split?_eq_none_iff`: there are no operands exactly if there is no cut.
-/

namespace RuleVerdict.Logic

/-- A single word outside brackets or a bracketed group: the words from the position `start` on,
without the one at `stop`. -/
structure Span where
  start : Nat
  stop : Nat
  isGroup : Bool
  deriving DecidableEq

/-- The spans of some words, the first of which stands at `i`. While brackets are open, `depth`
counts them and the outermost one stands at `opening`. -/
def spansFrom (i depth opening : Nat) : List String → Except TreeError (List Span)
  | [] => if depth = 0 then .ok [] else .error .unclosed
  | w :: ws =>
    if w = "(" then spansFrom (i + 1) (depth + 1) (if depth = 0 then i else opening) ws
    else if w = ")" then
      if depth = 0 then .error .unopened
      else if depth = 1 then (spansFrom (i + 1) 0 opening ws).map (⟨opening, i + 1, true⟩ :: ·)
      else spansFrom (i + 1) (depth - 1) opening ws
    else if depth = 0 then (spansFrom (i + 1) 0 opening ws).map (⟨i, i + 1, false⟩ :: ·)
    else spansFrom (i + 1) depth opening ws

/-- The spans of a word list, if its brackets match. -/
def spans (ws : List String) : Except TreeError (List Span) := spansFrom 0 0 0 ws

/-- The positions at which a word stands outside brackets. -/
def cuts (word : String) (ws : List String) (us : List Span) : List Nat :=
  (us.filter fun s => !s.isGroup && ws[s.start]? == some word).map Span.start

/-- The ranges between cuts, from `start` on and up to `stop`. -/
def ranges (start stop : Nat) : List Nat → List (Nat × Nat)
  | [] => [(start, stop)]
  | cut :: cuts => (start, cut) :: ranges (cut + 1) stop cuts

/-- The words between the cuts, if there are any cuts. -/
def split? (word : String) (ws : List String) (us : List Span) : Option (List (List String)) :=
  if cuts word ws us = [] then none
  else some ((ranges 0 ws.length (cuts word ws us)).map fun r => ws.extract r.1 r.2)

theorem split?_eq_none_iff {word : String} {ws : List String} {us : List Span} :
    split? word ws us = none ↔ cuts word ws us = [] := by
  simp [split?]

end RuleVerdict.Logic
