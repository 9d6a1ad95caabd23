import RuleVerdict.Binary64.Text
import RuleVerdict.Text.Truth

/-!
# Values and fields

A value is what a rule compares with and what a record holds: an integer of 64 bits, a binary
number, a truth value or a text. A field is what an atom finds in a record. For comparison all
numbers are binary ones, and a truth value counts as one or zero.
-/

namespace RuleVerdict

/-- A literal of a rule or a scalar of a record. -/
inductive Value where
  | int (i : Int64)
  | float (x : Binary64)
  | bool (b : Bool)
  | text (s : String)
  deriving DecidableEq, Inhabited

/-- What an atom finds at its path. -/
inductive Field where
  | number (x : Binary64)
  | text (s : String)
  | bool (b : Bool)
  | absent
  | unsupported
  deriving DecidableEq

namespace Field

/-- The number that takes part in comparisons. -/
def asNumber : Field → Option Binary64
  | .number x => some x
  | .bool b => some (if b then .one else .zero)
  | _ => none

/-- Whether anything was found. -/
def isPresent : Field → Bool
  | .absent => false
  | _ => true

/-- The text of a number, a text or a truth value. -/
def render : Field → Option String
  | .number x => some x.render
  | .text s => some s
  | .bool b => some (Text.truth b)
  | _ => none

end Field

namespace Value

/-- What an atom finds where the value stands. -/
def field : Value → Field
  | .int i => .number (.ofInt i.toInt)
  | .float x => .number x
  | .bool b => .bool b
  | .text s => .text s

/-- The integer, if the value is one. -/
def int? : Value → Option Int64
  | .int i => some i
  | _ => none

/-- The binary number, if the value is one. -/
def float? : Value → Option Binary64
  | .float x => some x
  | _ => none

/-- The truth value, if the value is one. -/
def bool? : Value → Option Bool
  | .bool b => some b
  | _ => none

/-- The text, if the value is one. -/
def text? : Value → Option String
  | .text s => some s
  | _ => none

/-- The decimal text of an integer. -/
def integerText (i : Int) : String :=
  if i < 0 then "-" ++ Text.numeral i.natAbs else Text.numeral i.natAbs

/-- How the value is shown; a text stands between quotes. -/
def shown : Value → String
  | .int i => integerText i.toInt
  | .float x => x.render
  | .bool b => Text.truth b
  | .text s => "\"" ++ s ++ "\""

/-- The text of the value where it stands for a list or a pattern. -/
def literalText (v : Value) : String := v.field.render.getD ""

end Value

end RuleVerdict
