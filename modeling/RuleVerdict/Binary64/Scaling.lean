import RuleVerdict.Binary64.Decimal

/-!
# Moving the point of a binary number

A binary number is multiplied or divided by a power of ten. The power is a binary number itself,
so it is rounded, and the product or quotient is rounded once more: the result is near to the exact
one, but it need not be the nearest. Of a power that is too large to be a binary number, as much as
there can be is divided by at a time.
-/

namespace RuleVerdict.Binary64

/-- The binary number nearest to a power of ten. -/
def powerOfTen (n : Nat) : Binary64 := ofRatio false (Decimal.placeWeight n) 1

/-- The greatest exponent of a power of ten that is a finite number. -/
def greatestPower : Nat := 308

/-- The number nearest to the product of two finite ones, without sign. -/
def product (x y : Binary64) : Binary64 :=
  ofRatio false (x.units * y.units) (unitsPerOne * unitsPerOne)

/-- The number nearest to the quotient of two finite ones, without sign. -/
def quotient (x y : Binary64) : Binary64 := ofRatio false x.units y.units

/-- Divides by the greatest power of ten, as often as is said or until nothing is left. -/
def lower : Nat → Binary64 → Binary64
  | 0, x => x
  | n + 1, x => if x.magnitude = 0 then x else lower n (x.quotient (powerOfTen greatestPower))

/-- Moves the point of a finite number without sign, to the right or to the left. -/
def scale (x : Binary64) : Int → Binary64
  | .ofNat k =>
    if k ≤ greatestPower then x.product (powerOfTen k)
    else if x.magnitude = 0 then x
    else infinity false
  | .negSucc k =>
    (lower (k / greatestPower) x).quotient (powerOfTen (k % greatestPower + 1))

end RuleVerdict.Binary64
