import RuleVerdict.Binary64.Decimal

/-!
# The shortest decimal number

The decimal number that stands for a binary one has as few digits as reading back allows: on the
grids of one digit, two digits and so on, the two neighbours of the number are tried, the nearer
one first. When both are equally near, a format says whether the upper one or the even one goes
first. Should no grid up to 17 digits do, the exact value is taken, which always reads back.

* `ofDecimal_of_onGrid?`: what is found on a grid reads back.
-/

namespace RuleVerdict

namespace Decimal

/-- The digits without the zeros at their end, and the exponent that makes up for them. -/
def strip (digits : Nat) (exponent : Int) : Nat × Int :=
  if h : digits ≠ 0 ∧ digits % 10 = 0 then strip (digits / 10) (exponent + 1)
  else (digits, exponent)
termination_by digits
decreasing_by omega

end Decimal

namespace Binary64

/-- The number without its sign. -/
def abs (x : Binary64) : Binary64 := ofMagnitude false x.magnitude

/-- How many decimal places a number of units has before its point; negative for as many zeros
behind it. -/
def leadingPlace (units : Nat) : Int :=
  (Decimal.places (units * Decimal.placeWeight 400 / unitsPerOne) : Int) - 400

/-- A number of units over the value of a decimal place, as a ratio. -/
def scaled (units : Nat) : Int → Nat × Nat
  | .ofNat e => (units, unitsPerOne * Decimal.placeWeight e)
  | .negSucc e => (units * Decimal.placeWeight (e + 1), unitsPerOne)

/-- Which of two equally near neighbours goes first. -/
inductive TieRule where
  | upper
  | even
  deriving DecidableEq

/-- The neighbours of a ratio among the natural numbers, the nearer one first. -/
def neighbours (tie : TieRule) (num den : Nat) : List Nat :=
  let low := num / den
  if 2 * (num % den) < den ∨ (2 * (num % den) = den ∧ tie = .even ∧ low % 2 = 0) then
    [low, low + 1]
  else [low + 1, low]

/-- The decimal number of at most `count` digits that reads back as `x`, if there is one. -/
def onGrid? (tie : TieRule) (x : Binary64) (count : Nat) : Option Decimal :=
  let place := leadingPlace x.units - count
  let ratio := scaled x.units place
  ((neighbours tie ratio.1 ratio.2).map fun n => ⟨false, n, place⟩).find? fun d =>
    decide (ofDecimal d = x.abs)

/-- The exact decimal value of a finite number without its sign. -/
def exactDecimal (x : Binary64) : Decimal := ⟨false, x.units * Nat.pow 5 1074, -1074⟩

/-- The decimal number that stands for a finite binary one without its sign. -/
def shortest (tie : TieRule) (x : Binary64) : Decimal :=
  let d := ((List.range 17).findSome? fun k => onGrid? tie x (k + 1)).getD (exactDecimal x)
  let r := Decimal.strip d.digits d.exponent
  ⟨false, r.1, r.2⟩

/-- What is found on a grid reads back. -/
theorem ofDecimal_of_onGrid? {tie : TieRule} {x : Binary64} {count : Nat} {d : Decimal}
    (h : onGrid? tie x count = some d) : ofDecimal d = x.abs := by
  rw [onGrid?] at h
  have hd := List.find?_some h
  exact of_decide_eq_true hd

end Binary64

end RuleVerdict
