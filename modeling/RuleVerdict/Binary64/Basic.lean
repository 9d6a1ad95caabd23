/-!
# Binary floating-point numbers of 64 bits

A number is its bit pattern: a sign, eleven bits of exponent and 52 bits of fraction. Without the
sign the pattern is the *magnitude*, and the order of magnitudes is the order of absolute values,
so numbers are compared by comparing signed magnitudes. Patterns above that of infinity are no
numbers, and they compare with nothing.

* `lt_irrefl`, `not_lt_of_lt`: the order is strict.
* `le_iff`: what is at most a number is below it or equal to it.
-/

namespace RuleVerdict

/-- A binary floating-point number, given by its bits. -/
structure Binary64 where
  bits : UInt64
  deriving DecidableEq, Inhabited

namespace Binary64

/-- The weight of a bit, counted from zero: a power of two. -/
def bitWeight (n : Nat) : Nat := Nat.pow 2 n

/-- The weight of the sign bit. -/
def signWeight : Nat := bitWeight 63

/-- The weight of the lowest exponent bit. -/
def exponentWeight : Nat := bitWeight 52

/-- The magnitude of infinity. -/
def infiniteMagnitude : Nat := 2047 * exponentWeight

/-- The pattern without the sign. -/
def magnitude (x : Binary64) : Nat := x.bits.toNat % signWeight

/-- Whether the sign bit is set. -/
def negative (x : Binary64) : Bool := decide (signWeight ≤ x.bits.toNat)

/-- The number with the given sign and magnitude. -/
def ofMagnitude (neg : Bool) (m : Nat) : Binary64 :=
  ⟨UInt64.ofNat (if neg then signWeight + m else m)⟩

/-- Positive zero. -/
def zero : Binary64 := ofMagnitude false 0

/-- One. -/
def one : Binary64 := ofMagnitude false (1023 * exponentWeight)

/-- Positive or negative infinity. -/
def infinity (neg : Bool) : Binary64 := ofMagnitude neg infiniteMagnitude

/-- A pattern that is no number. -/
def nan : Binary64 := ofMagnitude false (infiniteMagnitude + bitWeight 51)

/-- Whether the pattern is no number. -/
def isNaN (x : Binary64) : Bool := decide (infiniteMagnitude < x.magnitude)

/-- Whether the number is positive or negative infinity. -/
def isInfinite (x : Binary64) : Bool := decide (x.magnitude = infiniteMagnitude)

/-- Whether the number is finite. -/
def isFinite (x : Binary64) : Bool := decide (x.magnitude < infiniteMagnitude)

/-- The magnitude with the sign; both zeros have rank zero. -/
def rank (x : Binary64) : Int := if x.negative then -(x.magnitude : Int) else x.magnitude

/-- Numerical equality. -/
def eq (x y : Binary64) : Bool := !x.isNaN && !y.isNaN && decide (x.rank = y.rank)

/-- Numerical order. -/
def lt (x y : Binary64) : Bool := !x.isNaN && !y.isNaN && decide (x.rank < y.rank)

/-- At most, numerically. -/
def le (x y : Binary64) : Bool := !x.isNaN && !y.isNaN && decide (x.rank ≤ y.rank)

theorem lt_irrefl (x : Binary64) : x.lt x = false := by simp [lt]

theorem not_lt_of_lt {x y : Binary64} (h : x.lt y = true) : y.lt x = false := by
  simp only [lt, Bool.and_eq_true, decide_eq_true_eq] at h
  have : ¬ y.rank < x.rank := by omega
  simp [lt, this]

theorem le_iff {x y : Binary64} : x.le y = true ↔ x.lt y = true ∨ x.eq y = true := by
  simp only [le, lt, eq, Bool.and_eq_true, decide_eq_true_eq]
  constructor
  · rintro ⟨h, hr⟩
    rcases Int.lt_or_eq_of_le hr with hr | hr
    · exact .inl ⟨h, hr⟩
    · exact .inr ⟨h, hr⟩
  · rintro (⟨h, hr⟩ | ⟨h, hr⟩)
    · exact ⟨h, by omega⟩
    · exact ⟨h, by omega⟩

end Binary64

end RuleVerdict
