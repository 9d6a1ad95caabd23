import RuleVerdict.Text.Digits
import RuleVerdict.Binary64.Rounding

/-!
# Decimal numbers

A decimal number is a sign, a natural number of digits and a power of ten. It is rounded to the
nearest binary number. Far outside the range of binary numbers the power of ten is not computed:
what has at least 310 places before its point is infinite, and what starts later than 340 places
behind it is zero.

* `ofDecimal_zero`: zero keeps its sign.
-/

namespace RuleVerdict

/-- The number `digits * 10 ^ exponent` with a sign. -/
structure Decimal where
  negative : Bool
  digits : Nat
  exponent : Int
  deriving DecidableEq

/-- The weight of a decimal place before the point, counted from zero: a power of ten. -/
def Decimal.placeWeight (n : Nat) : Nat := Nat.pow 10 n

/-- The number of decimal digits. -/
def Decimal.places (n : Nat) : Nat := if n < 10 then 1 else Decimal.places (n / 10) + 1
termination_by n

namespace Binary64

/-- The binary number nearest to a decimal number. -/
def ofDecimal (d : Decimal) : Binary64 :=
  if d.digits = 0 then ofMagnitude d.negative 0
  else if 310 ≤ (Decimal.places d.digits : Int) + d.exponent then infinity d.negative
  else if (Decimal.places d.digits : Int) + d.exponent ≤ -340 then ofMagnitude d.negative 0
  else
    match d.exponent with
    | .ofNat e => ofRatio d.negative (d.digits * Decimal.placeWeight e) 1
    | .negSucc e => ofRatio d.negative d.digits (Decimal.placeWeight (e + 1))

theorem ofDecimal_zero (neg : Bool) (e : Int) : ofDecimal ⟨neg, 0, e⟩ = ofMagnitude neg 0 := by
  simp [ofDecimal]

end Binary64

namespace Decimal

open Text

/-- The exponent part of a written number, if one begins here: `e` or `E`, a sign or none, and
digits. Without a marker the exponent is zero; a marker without digits is an error. -/
def readExponent : List Char → Option (Int × List Char)
  | [] => some (0, [])
  | c :: cs =>
    if c = 'e' ∨ c = 'E' then
      let (neg, rest) :=
        match cs with
        | '-' :: r => (true, r)
        | '+' :: r => (false, r)
        | r => (false, r)
      let ds := rest.takeWhile isDigit
      if ds.isEmpty then none
      else
        let n : Int := ofDigits ds
        some (if neg then -n else n, rest.dropWhile isDigit)
    else some (0, c :: cs)

/-- The digits behind a point, if a point comes next. -/
def readFraction : List Char → List Char × List Char
  | '.' :: cs => (cs.takeWhile isDigit, cs.dropWhile isDigit)
  | cs => ([], cs)

/-- An unsigned number with digits on at least one side of its point, and the text behind it. -/
def readUnsigned (neg : Bool) (cs : List Char) : Option (Decimal × List Char) :=
  let whole := cs.takeWhile isDigit
  let (fraction, rest) := readFraction (cs.dropWhile isDigit)
  if whole.isEmpty && fraction.isEmpty then none
  else
    (readExponent rest).map fun (e, rest) =>
      (⟨neg, ofDigits (whole ++ fraction), e - (fraction.length : Int)⟩, rest)

end Decimal

end RuleVerdict
