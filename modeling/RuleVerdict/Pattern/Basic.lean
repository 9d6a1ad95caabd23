import RuleVerdict.Unicode.CodeSet
import RuleVerdict.Unicode.Property

/-!
# Patterns and where they match

A pattern with all settings resolved: sets of characters, conditions on a place, sequences,
choices and repetitions. A match is looked for by following all its ways at once. The places of a
text are the gaps before, between and behind its characters, and a row of truth values marks some
of them. A pattern leads from the marked places to the places where it can end when it begins at
one of those, so a repetition is followed until no new place is marked.

* `ends_empty`: the empty pattern goes nowhere.
* `matches_empty`: the empty pattern matches everywhere.
-/

namespace RuleVerdict

open Unicode

namespace Pattern

/-- A condition on the characters before and behind a place. -/
inductive Look where
  | textStart
  | textEnd
  | lineStart
  | lineEnd
  | lineStartCrlf
  | lineEndCrlf
  | boundary (ascii : Bool)
  | noBoundary (ascii : Bool)
  | wordStart (ascii : Bool)
  | wordEnd (ascii : Bool)
  | wordStartHalf (ascii : Bool)
  | wordEndHalf (ascii : Bool)
  deriving DecidableEq

/-- Whether a character belongs to a word; a missing one does not. -/
def isWord (ascii : Bool) : Option Char → Bool
  | none => false
  | some c =>
    if ascii then
      ('0' ≤ c && c ≤ '9') || ('A' ≤ c && c ≤ 'Z') || ('a' ≤ c && c ≤ 'z') || c = '_'
    else wordCharacters.contains c

/-- Whether a condition holds between two characters, which are missing at the ends of the text. -/
def Look.holds (before after : Option Char) : Look → Bool
  | .textStart => before.isNone
  | .textEnd => after.isNone
  | .lineStart => before.isNone || before == some '\n'
  | .lineEnd => after.isNone || after == some '\n'
  | .lineStartCrlf =>
    before.isNone || before == some '\n' || (before == some '\r' && after != some '\n')
  | .lineEndCrlf =>
    after.isNone || after == some '\r' || (after == some '\n' && before != some '\r')
  | .boundary ascii => isWord ascii before != isWord ascii after
  | .noBoundary ascii => isWord ascii before == isWord ascii after
  | .wordStart ascii => !isWord ascii before && isWord ascii after
  | .wordEnd ascii => isWord ascii before && !isWord ascii after
  | .wordStartHalf ascii => !isWord ascii before
  | .wordEndHalf ascii => !isWord ascii after

end Pattern

/-- A pattern with all settings resolved. A group matches what its body does. A lazy repetition
prefers few times, which says which match is found first and not whether there is one. -/
inductive Pattern where
  | oneOf (set : CodeSet)
  | look (l : Pattern.Look)
  | sequence (parts : List Pattern)
  | choice (branches : List Pattern)
  | repetition (body : Pattern) (least : Nat) (most : Option Nat) (lazy : Bool)
  | group (body : Pattern)
  deriving Inhabited

namespace Pattern

/-- The pattern that matches nothing but the empty text. -/
def empty : Pattern := .sequence []

/-- Truth values for the places of a text, of which there is one more than there are characters. -/
abbrev Marks := List Bool

/-- The characters before and behind each place. -/
def places (before : Option Char) : List Char → List (Option Char × Option Char)
  | [] => [(before, none)]
  | c :: cs => (before, some c) :: places (some c) cs

/-- The places one character further, where that character is in the set. -/
def advance (set : CodeSet) (text : List Char) (m : Marks) : Marks :=
  false :: List.zipWith (fun b c => b && set.contains c) m text

/-- The marked places at which the condition holds. -/
def keep (l : Look) (text : List Char) (m : Marks) : Marks :=
  List.zipWith (fun b p => b && l.holds p.1 p.2) m (places none text)

/-- The places that are marked in either row. -/
def either (a b : Marks) : Marks := List.zipWith (fun x y => x || y) a b

/-- Goes a step `n` times. A step that changes nothing need not be repeated. -/
def iterate (step : Marks → Marks) : Nat → Marks → Marks
  | 0, m => m
  | n + 1, m =>
    let next := step m
    if next = m then m else iterate step n next

/-- Goes a step up to `n` times and marks all places on the way. -/
def spread (step : Marks → Marks) : Nat → Marks → Marks
  | 0, m => m
  | n + 1, m =>
    let next := either m (step m)
    if next = m then m else spread step n next

mutual

/-- The places where the pattern can end when it begins at a marked one. -/
def ends (text : List Char) : Pattern → Marks → Marks
  | .oneOf set, m => advance set text m
  | .look l, m => keep l text m
  | .sequence parts, m => endsOfSequence text parts m
  | .choice branches, m => endsOfChoice text branches m
  | .repetition body least most _, m =>
    let required := iterate (ends text body) least m
    match most with
    | some most => spread (ends text body) (most - least) required
    | none => spread (ends text body) (text.length + 1) required
  | .group body, m => ends text body m

/-- The places where the last of some patterns in a row can end. -/
def endsOfSequence (text : List Char) : List Pattern → Marks → Marks
  | [], m => m
  | p :: ps, m => endsOfSequence text ps (ends text p m)

/-- The places where some pattern can end. -/
def endsOfChoice (text : List Char) : List Pattern → Marks → Marks
  | [], m => m.map fun _ => false
  | p :: ps, m => either (ends text p m) (endsOfChoice text ps m)

end

/-- Whether the pattern matches somewhere in the text. -/
def isMatch (p : Pattern) (text : List Char) : Bool :=
  (ends text p (List.replicate (text.length + 1) true)).any id

theorem ends_empty (text : List Char) (m : Marks) : ends text empty m = m := by
  simp [empty, ends, endsOfSequence]

theorem matches_empty (text : List Char) : empty.isMatch text = true := by
  simp [isMatch, ends_empty, List.replicate_succ]

end Pattern

end RuleVerdict
