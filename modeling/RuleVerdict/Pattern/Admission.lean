import RuleVerdict.Pattern.Machine
import RuleVerdict.Pattern.Meaning
import RuleVerdict.Pattern.Opening
import RuleVerdict.Pattern.Reader

/-!
# Which texts are patterns

A text is a pattern if it is well formed, has a meaning and does not take too much room. A pattern
whose matches are found without a machine takes none.

* `Pattern.read?`: the pattern that a text writes.
* `readChars?_isAdmissible`: what is read takes no more room than allowed.
-/

namespace RuleVerdict.Pattern

/-- Whether a pattern needs no machine, or one within the limit. -/
def isAdmissible (p : Pattern) : Bool :=
  let f := p.simplify
  f.fits || f.needsNoMachine

/-- The pattern that a text writes. -/
def readChars? (cs : List Char) : Option Pattern :=
  match Expression.read? cs with
  | none => none
  | some e =>
    match e.meaning? .start with
    | none => none
    | some (p, _) => if p.isAdmissible then some p else none

/-- The pattern that a text writes. -/
def read? (s : String) : Option Pattern := readChars? s.toList

theorem readChars?_isAdmissible {cs : List Char} {p : Pattern} (h : readChars? cs = some p) :
    p.isAdmissible = true := by
  unfold readChars? at h
  split at h
  · cases h
  · split at h
    · cases h
    · split at h
      · cases h
        assumption
      · cases h

end RuleVerdict.Pattern
