import RuleVerdict.AtomId
import RuleVerdict.Logic.Layout

/-!
# Tokens of a logic text

A logic text in normal layout is a list of words with single spaces between them. Each word is the
number of an atom, one of the words `and`, `or` and `not`, or a bracket.

* `ofWord?_word`: every token is read back from its word.
-/

namespace RuleVerdict.Logic

/-- A word of a logic text. -/
inductive Token where
  | id (id : AtomId)
  | and
  | or
  | not
  | opening
  | closing
  deriving DecidableEq, Inhabited

namespace Token

/-- How the token is written. -/
def word : Token → String
  | .id n => n.text
  | .and => "and"
  | .or => "or"
  | .not => "not"
  | .opening => "("
  | .closing => ")"

/-- The token that a word stands for. An id may have leading zeros. -/
def ofWord? (w : String) : Option Token :=
  if w = "and" then some .and
  else if w = "or" then some .or
  else if w = "not" then some .not
  else if w = "(" then some .opening
  else if w = ")" then some .closing
  else (AtomId.ofDigits? w.toList).map .id

/-- The atom that the token refers to, if any. -/
def id? : Token → Option AtomId
  | .id n => some n
  | _ => none

theorem ofWord?_of_digits {w : String} {n : AtomId} (h : AtomId.ofDigits? w.toList = some n) :
    ofWord? w = some (.id n) := by
  have hd : ∀ s : String, AtomId.ofDigits? s.toList = none → w ≠ s := by
    rintro s hs rfl
    rw [hs] at h
    cases h
  have h1 := hd "and" (by decide +kernel)
  have h2 := hd "or" (by decide +kernel)
  have h3 := hd "not" (by decide +kernel)
  have h4 := hd "(" (by decide +kernel)
  have h5 := hd ")" (by decide +kernel)
  simp [ofWord?, h1, h2, h3, h4, h5, h]

theorem ofWord?_word (t : Token) : ofWord? t.word = some t := by
  cases t with
  | id n =>
    apply ofWord?_of_digits
    simpa [word, AtomId.text, Text.numeral, AtomId.digits] using AtomId.ofDigits?_digits n
  | _ => decide +kernel

end Token

/-- The first word, if any, that is no token, or else all tokens. -/
def tokensOf : List String → Except String (List Token)
  | [] => .ok []
  | w :: ws =>
    match Token.ofWord? w with
    | none => .error w
    | some t => (tokensOf ws).map (t :: ·)

/-- The tokens of a text with a single space between two words, or the first word that is none. -/
def tokenize (normal : String) : Except String (List Token) :=
  if normal = "" then .ok [] else tokensOf (Text.split ' ' normal)

/-- The atoms that some tokens refer to, each once, in the order in which they come up. -/
def referenced (ts : List Token) : List AtomId :=
  (ts.filterMap Token.id?).eraseDups

theorem tokensOf_words (ts : List Token) : tokensOf (ts.map Token.word) = .ok ts := by
  induction ts with
  | nil => rfl
  | cons t ts ih => simp [tokensOf, Token.ofWord?_word, ih, Except.map]

end RuleVerdict.Logic
