import RuleVerdict.Binary64.Basic

/-!
# Rounding to the nearest number

Every finite number is a natural multiple, up to sign, of the smallest positive one, the *unit*. A
ratio of natural numbers is rounded to the nearest finite number, a tie to the one with an even
fraction; the step between neighbours doubles with every binade, and beyond the last binade lies
infinity.

* `roundRatio_zero`: nothing rounds to nothing.
* `roundDiv_mul`: a whole quotient is not changed.
-/

namespace RuleVerdict.Binary64

/-- One as a multiple of the unit, which is the smallest positive number. -/
def unitsPerOne : Nat := bitWeight 1074

/-- The quotient to the nearest whole number, a tie to the even one. -/
def roundDiv (n d : Nat) : Nat :=
  if d < 2 * (n % d) ∨ (d = 2 * (n % d) ∧ n / d % 2 = 1) then n / d + 1 else n / d

/-- How many times the step between neighbours has doubled where the numbers have `n` units. -/
def binade (n : Nat) : Nat := n.log2 - 52

/-- The magnitude of the number nearest to the ratio. -/
def roundRatio (num den : Nat) : Nat :=
  let e := binade (num * unitsPerOne / den)
  min infiniteMagnitude (e * exponentWeight + roundDiv (num * unitsPerOne) (den * bitWeight e))

/-- The number nearest to a ratio with a sign. -/
def ofRatio (neg : Bool) (num den : Nat) : Binary64 := ofMagnitude neg (roundRatio num den)

/-- The number nearest to an integer. -/
def ofInt (i : Int) : Binary64 := ofRatio (decide (i < 0)) i.natAbs 1

/-- The units of the finite number with the given magnitude. -/
def unitsOfMagnitude (m : Nat) : Nat :=
  if m / exponentWeight = 0 then m
  else (exponentWeight + m % exponentWeight) * bitWeight (m / exponentWeight - 1)

/-- The units of a finite number, without the sign. -/
def units (x : Binary64) : Nat := unitsOfMagnitude x.magnitude

/-- The units of a finite number with their sign. -/
def signedUnits (x : Binary64) : Int := if x.negative then -(x.units : Int) else x.units

/-- The number nearest to the distance of two numbers. -/
def distance (x y : Binary64) : Binary64 :=
  if x.isNaN || y.isNaN then nan
  else if x.isInfinite && y.isInfinite && x.negative == y.negative then nan
  else if x.isInfinite || y.isInfinite then infinity false
  else ofRatio false (x.signedUnits - y.signedUnits).natAbs unitsPerOne

theorem roundDiv_mul {n d : Nat} (h : 0 < d) : roundDiv (n * d) d = n := by
  have hd : n * d / d = n := Nat.mul_div_cancel n h
  have hm : n * d % d = 0 := Nat.mul_mod_left n d
  rw [roundDiv, hd, hm, if_neg (by omega)]

theorem roundDiv_zero (d : Nat) : roundDiv 0 d = 0 := by
  cases d <;> simp [roundDiv]

theorem roundRatio_zero (den : Nat) : roundRatio 0 den = 0 := by
  simp [roundRatio, roundDiv_zero, binade, Nat.log2_zero]

/-- Numbers below the second binade have as many units as their magnitude says. -/
theorem unitsOfMagnitude_of_lt {m : Nat} (h : m < exponentWeight) : unitsOfMagnitude m = m := by
  simp [unitsOfMagnitude, Nat.div_eq_of_lt h]

end RuleVerdict.Binary64
