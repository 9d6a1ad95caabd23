import RuleVerdict.Proofs.Atom.Operators
import RuleVerdict.Proofs.Binary64.Integers

/-!
# Comparing integers

An integer of a record and an integer of a rule are compared as binary numbers. The answer is that
of the rounded integers, so it agrees with the order of the integers themselves as long as both
have at most 53 bits. Beyond that two integers may be taken for equal, but no comparison ever says
the opposite of their order.

* `onNumbers_ofInt`: comparing binary numbers of integers is comparing the rounded integers.
* `RespectsOrder`: how comparisons go together with the order of two integers.
* `respects_order`: the comparisons of atoms do.
-/

namespace RuleVerdict

open Binary64

namespace Comparison

/-- Compares two integers. -/
def onInts (i j : Int) : Comparison → Bool
  | .eq => decide (i = j)
  | .ne => decide (i ≠ j)
  | .gt => decide (j < i)
  | .ge => decide (j ≤ i)
  | .lt => decide (i < j)
  | .le => decide (i ≤ j)

/-- Comparing binary numbers of integers is comparing the rounded integers. -/
theorem onNumbers_ofInt (c : Comparison) (i j : Int64) :
    c.onNumbers (ofInt i.toInt) (ofInt j.toInt) =
      c.onInts (nearestInt i.toInt) (nearestInt j.toInt) := by
  have hi := isNaN_of_isFinite (isFinite_ofInt i)
  have hj := isNaN_of_isFinite (isFinite_ofInt j)
  have hLess := rank_ofInt_lt_iff i j
  have hMore := rank_ofInt_lt_iff j i
  have hLe : (ofInt i.toInt).rank ≤ (ofInt j.toInt).rank ↔
      nearestInt i.toInt ≤ nearestInt j.toInt := by omega
  have hGe : (ofInt j.toInt).rank ≤ (ofInt i.toInt).rank ↔
      nearestInt j.toInt ≤ nearestInt i.toInt := by omega
  have hSame : (ofInt i.toInt).rank = (ofInt j.toInt).rank ↔
      nearestInt i.toInt = nearestInt j.toInt := by omega
  cases c <;>
    simp [onNumbers, onInts, Binary64.eq, Binary64.lt, Binary64.le, hi, hj, hLess, hMore, hLe, hGe,
      hSame]

end Comparison

/-- How comparisons go together with the order of a value and a limit. They answer for the rounded
integers, never say the opposite of the order, know equal integers, and are right throughout where
no bits are lost. -/
structure RespectsOrder (fits : Comparison → Bool) (value limit : Int) : Prop where
  rounded : ∀ c : Comparison, fits c = c.onInts (nearestInt value) (nearestInt limit)
  of_lt : value < limit → fits .le = true ∧ fits .gt = false
  of_gt : limit < value → fits .ge = true ∧ fits .lt = false
  of_eq : value = limit → (fits .eq = true ∧ fits .le = true ∧ fits .ge = true) ∧
    fits .ne = false ∧ fits .lt = false ∧ fits .gt = false
  exact : value.natAbs ≤ bitWeight 53 → limit.natAbs ≤ bitWeight 53 →
    ∀ c : Comparison, fits c = c.onInts value limit

/-- Whatever answers for the rounded integers respects the order. -/
theorem RespectsOrder.of_rounded {fits : Comparison → Bool} {value limit : Int}
    (h : ∀ c : Comparison, fits c = c.onInts (nearestInt value) (nearestInt limit)) :
    RespectsOrder fits value limit where
  rounded := h
  of_lt := by
    intro hLess
    have hRounded : nearestInt value ≤ nearestInt limit := nearestInt_mono (by omega)
    rw [h, h]
    exact ⟨decide_eq_true hRounded, decide_eq_false (by omega)⟩
  of_gt := by
    intro hMore
    have hRounded : nearestInt limit ≤ nearestInt value := nearestInt_mono (by omega)
    rw [h, h]
    exact ⟨decide_eq_true hRounded, decide_eq_false (by omega)⟩
  of_eq := by
    rintro rfl
    simp [h, Comparison.onInts]
  exact := by
    intro hValue hLimit c
    rw [h, nearestInt_of_le hValue, nearestInt_of_le hLimit]

namespace Atom

variable {R : LiteralReader} (a : Atom R) (limit value : Int64)

/-- Whether an integer fits when the atom compares it with a limit. -/
def fitsInt (c : Comparison) : Bool :=
  ((a.against (.int limit)).under (.compare c)).fits (Value.int value).field

/-- **Comparisons never contradict the order of integers.** An atom that compares an integer with
its literal answers for the two integers after rounding, and so never says the opposite of their
order; with at most 53 bits in both it says just what their order is. -/
theorem respects_order : RespectsOrder (a.fitsInt limit value) value.toInt limit.toInt := by
  apply RespectsOrder.of_rounded
  intro c
  rw [fitsInt, fits_against_under, Matcher.fits_compare, ← Comparison.onNumbers_ofInt]
  exact (c.onNumbers_eq _ _).symm

/-- The integer behind the last one of 53 bits is taken for that one, but not for a smaller one. -/
theorem respects_order_beyond_53_bits :
    let a : Atom := ⟨1, "f", .compare .gt, none, "", _, rfl⟩
    let fits := a.fitsInt 9007199254740992 9007199254740993
    fits .ge = true ∧ fits .lt = false ∧ fits .eq = true := by
  intro a fits
  have hOrder := respects_order a 9007199254740992 9007199254740993
  obtain ⟨hGe, hLt⟩ := hOrder.of_gt (by decide)
  refine ⟨hGe, hLt, (hOrder.rounded .eq).trans ?_⟩
  decide +kernel

end Atom

end RuleVerdict
