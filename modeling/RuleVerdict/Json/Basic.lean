import RuleVerdict.Binary64.Scaling
import RuleVerdict.Binary64.Text

/-!
# JSON values

A JSON value as it is written: a number keeps its digits, an object its members in order, repeated
names included. Whether a number is in range and whether a text can be decoded matters only where
they are used, so both are questions to the value and not to the reader.

* `toInt?_natural`: a number of digits alone is an integer.
-/

namespace RuleVerdict

/-- A number as it is written: a sign, digits, digits behind a point, and a signed exponent. -/
structure JsonNumber where
  negative : Bool
  whole : List Char
  fraction : Option (List Char)
  exponent : Option (Bool × List Char)
  deriving DecidableEq

/-- A JSON value. A text is missing where it holds half of a surrogate pair. -/
inductive Json where
  | null
  | bool (b : Bool)
  | number (n : JsonNumber)
  | text (s : Option String)
  | array (items : List Json)
  | object (members : List (Option String × Json))
  deriving Inhabited

namespace JsonNumber

open Text

/-- A whole number without sign. -/
def natural (n : Nat) : JsonNumber := ⟨false, toDigits n, none, none⟩

/-- An integer. -/
def integer (i : Int) : JsonNumber := ⟨decide (i < 0), toDigits i.natAbs, none, none⟩

/-- The integer that is written, unless there is a point, an exponent or a minus before zero. -/
def toInt? (n : JsonNumber) : Option Int :=
  if n.fraction.isSome || n.exponent.isSome then none
  else
    let magnitude := ofDigits n.whole
    if n.negative then (if magnitude = 0 then none else some (-(magnitude : Int)))
    else some magnitude

/-- The exponent that is written. -/
def power (n : JsonNumber) : Int :=
  match n.exponent with
  | none => 0
  | some (neg, ds) => if neg then -(ofDigits ds : Int) else ofDigits ds

/-- The greatest number of 64 bits without sign. -/
def greatestSignificand : Nat := 18446744073709551615

/-- Appends digits to a number as long as it stays within 64 bits, and counts those left over. -/
def absorb (s : Nat) : List Char → Nat × Nat
  | [] => (s, 0)
  | c :: cs =>
    if s * 10 + digitValue c ≤ greatestSignificand then absorb (s * 10 + digitValue c) cs
    else (s, cs.length + 1)

/-- The digits that count, as a number, and the power of ten that they are multiplied by. Digits
count from the left as long as they form a number of 64 bits. -/
def significand (n : JsonNumber) : Nat × Int :=
  let fraction := n.fraction.getD []
  let (s, left) := absorb 0 n.whole
  let (s, dropped) := absorb s fraction
  (s, n.power + left - (fraction.length - dropped))

/-- The binary number that is taken for what is written, unless that is infinite. The digits are
rounded first, and the point is moved afterwards, so the result is not always the nearest one. -/
def toBinary64? (n : JsonNumber) : Option Binary64 :=
  let (s, place) := n.significand
  let x := (Binary64.ofRatio false s 1).scale place
  if x.isInfinite then none else some (.ofMagnitude n.negative x.magnitude)

theorem toInt?_natural (n : Nat) : (natural n).toInt? = some (n : Int) := by
  simp [natural, toInt?, ofDigits_toDigits]

theorem toInt?_integer (i : Int) : (integer i).toInt? = some i := by
  simp only [integer, toInt?, ofDigits_toDigits]
  by_cases h : i < 0
  · have hne : i.natAbs ≠ 0 := by omega
    have hi : -(i.natAbs : Int) = i := by omega
    simp only [h, decide_true, Option.isSome_none, Bool.or_false, Bool.false_eq_true, if_false,
      if_true, hne, hi]
  · have hi : (i.natAbs : Int) = i := by omega
    simp only [h, decide_false, Option.isSome_none, Bool.or_false, Bool.false_eq_true, if_false,
      hi]

end JsonNumber

end RuleVerdict
