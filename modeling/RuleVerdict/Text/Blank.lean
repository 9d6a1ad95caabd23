/-!
# Blank characters

The blanks of this library are the characters of the Unicode property `White_Space`. They separate
the words of a logic text, and they are cut off at both ends of a list item and of an interval
literal.

* `isBlank_space`: the space is a blank.
-/

namespace RuleVerdict.Text

/-- The characters of `White_Space`. -/
def isBlank (c : Char) : Bool :=
  ('\t' ≤ c && c ≤ '\r') || c = ' ' || c = '\x85' || c = '\xa0' || c = '\u1680' ||
    ('\u2000' ≤ c && c ≤ '\u200a') || c = '\u2028' || c = '\u2029' || c = '\u202f' ||
    c = '\u205f' || c = '\u3000'

theorem isBlank_space : isBlank ' ' = true := by decide

/-- Cuts the blanks off at the end. -/
def trimEnd (cs : List Char) : List Char :=
  (cs.reverse.dropWhile isBlank).reverse

/-- Cuts the blanks off at both ends. -/
def trim (cs : List Char) : List Char :=
  trimEnd (cs.dropWhile isBlank)

@[simp] theorem trim_nil : trim [] = [] := rfl

end RuleVerdict.Text
