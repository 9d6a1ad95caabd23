import RuleVerdict.Binary64.Text
import RuleVerdict.Text.Blank

/-!
# Intervals

An interval has a bound on either side, or none there, and each bound belongs to it or not. It is
written as `[1,2)`: a bracket, a number or nothing, a comma, a number or nothing, a bracket, with
spaces and tabs around the numbers. A square bracket takes its bound in. What writes a number is up
to a reader of numbers.
-/

namespace RuleVerdict

/-- An interval of numbers; a closed side contains its bound. -/
structure Interval where
  lower : Option Binary64
  lowerClosed : Bool
  upper : Option Binary64
  upperClosed : Bool
  deriving DecidableEq

namespace Interval

/-- Whether a number lies above the lower bound. -/
def aboveLower (i : Interval) (x : Binary64) : Bool :=
  match i.lower with
  | none => true
  | some a => if i.lowerClosed then a.le x else a.lt x

/-- Whether a number lies below the upper bound. -/
def belowUpper (i : Interval) (x : Binary64) : Bool :=
  match i.upper with
  | none => true
  | some b => if i.upperClosed then x.le b else x.lt b

/-- Whether the interval contains a number. -/
def contains (i : Interval) (x : Binary64) : Bool := i.aboveLower x && i.belowUpper x

/-! ## Reading -/

/-- Whether the character may stand around a bound. -/
def isPadding (c : Char) : Bool := c = ' ' || c = '\t'

/-- The rest of a text behind a word that is given in lower case, in any letter case. -/
def afterWord? (word : List Char) (cs : List Char) : Option (List Char) :=
  if (cs.take word.length).map Binary64.asciiLower = word then some (cs.drop word.length) else none

/-- Reads a number behind its sign: infinity in its short or long spelling, or a decimal number. -/
def readUnsigned (neg : Bool) (cs : List Char) : Option (Binary64 × List Char) :=
  match afterWord? ['i', 'n', 'f'] cs with
  | some rest =>
    some (.infinity neg, (afterWord? ['i', 'n', 'i', 't', 'y'] rest).getD rest)
  | none => (Decimal.readUnsigned neg cs).map fun (d, rest) => (.ofDecimal d, rest)

/-- Reads a number; what is no number is written without a sign. -/
def readNumber (cs : List Char) : Option (Binary64 × List Char) :=
  match afterWord? ['n', 'a', 'n'] cs with
  | some rest => some (.nan, rest)
  | none =>
    match cs with
    | '-' :: rest => readUnsigned true rest
    | '+' :: rest => readUnsigned false rest
    | cs => readUnsigned false cs

/-- A reader of numbers: the number at the front of a text, and the rest of the text. -/
abbrev NumberReader := List Char → Option (Binary64 × List Char)

variable (number? : NumberReader)

/-- Reads a bound up to the character that ends it. Where nothing but padding comes before that
character, there is no bound. -/
def readBound (ending : Char → Bool) (cs : List Char) :
    Option (Option Binary64 × Char × List Char) :=
  match cs.dropWhile isPadding with
  | [] => none
  | c :: rest =>
    if ending c then some (none, c, rest)
    else
      match number? (c :: rest) with
      | none => none
      | some (x, rest) =>
        match rest.dropWhile isPadding with
        | [] => none
        | d :: rest => if ending d then some (some x, d, rest) else none

/-- Reads the bounds of an interval behind its opening bracket. -/
def readBounds (lowerClosed : Bool) (cs : List Char) : Option Interval :=
  match readBound number? (· = ',') cs with
  | none => none
  | some (lower, _, cs) =>
    match readBound number? (fun c => c = ']' || c = ')') cs with
    | some (upper, c, []) => some ⟨lower, lowerClosed, upper, c = ']'⟩
    | _ => none

/-- The interval that a text writes; blanks around it do not count. -/
def read? (s : String) : Option Interval :=
  match Text.trim s.toList with
  | '[' :: cs => readBounds number? true cs
  | '(' :: cs => readBounds number? false cs
  | _ => none

end Interval

end RuleVerdict
