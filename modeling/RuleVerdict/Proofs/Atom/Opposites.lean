import RuleVerdict.Proofs.Atom.Operators

/-!
# Opposite operators

Who writes rules exchanges "not" before an atom for the opposite operator. That never makes both
atoms fit, but it makes neither fit where there is nothing to compare: of two opposite comparisons
one fits exactly if the field and the literal are both texts or both count as numbers, and for the
opposites in order neither may be the pattern that is no number.

* `Coherent`: how the operators of atoms go together that are alike in all else.
* `operators_coherent`: they always go together so.
-/

namespace RuleVerdict

/-- The pairs of operators of which one denies what the other says. -/
def Operator.opposites : List (Operator × Operator) := [
  (.compare .eq, .compare .ne),
  (.compare .gt, .compare .le),
  (.compare .lt, .compare .ge),
  (.isIn, .notIn),
  (.absent, .present)]

namespace Field

/-- There is a literal of the same kind as the field, and the two have an order. -/
def OrderedTo (f : Field) (literal : Option Value) : Prop :=
  ∃ v, literal = some v ∧ f.Comparable v.field ∧ ¬f.IsNaN ∧ ¬v.field.IsNaN

end Field

/-- How the operators go together under which a field fits a literal, or fits without one. Of two
operators exactly one fits if the truth values differ. -/
structure Coherent (fits : Operator → Bool) (literal : Option Value) (f : Field) : Prop where
  never_both : ∀ p ∈ Operator.opposites, ¬(fits p.1 = true ∧ fits p.2 = true)
  presence : fits .absent ≠ fits .present
  membership : literal.isSome = true → (fits .isIn ≠ fits .notIn ↔ f.IsScalar)
  equality : fits (.compare .eq) ≠ fits (.compare .ne) ↔ f.ComparableTo literal
  above : fits (.compare .gt) ≠ fits (.compare .le) ↔ f.OrderedTo literal
  below : fits (.compare .lt) ≠ fits (.compare .ge) ↔ f.OrderedTo literal
  le_iff : fits (.compare .le) = true ↔ fits (.compare .lt) = true ∨ fits (.compare .eq) = true
  ge_iff : fits (.compare .ge) = true ↔ fits (.compare .gt) = true ∨ fits (.compare .eq) = true
  at_most_one : [.lt, .eq, .gt].Pairwise fun c d =>
    ¬(fits (.compare c) = true ∧ fits (.compare d) = true)

namespace Standing

theorem toLiteral_ordered_iff (f : Field) (literal : Option Value) :
    toLiteral f literal ≠ incomparable ∧ toLiteral f literal ≠ unordered ↔
      f.OrderedTo literal := by
  rw [toLiteral_ne_incomparable_iff]
  constructor
  · rintro ⟨⟨v, rfl, hKind⟩, hOrder⟩
    rw [toLiteral, ne_eq, ofFields_eq_unordered_iff, not_and, not_or] at hOrder
    exact ⟨v, rfl, hKind, hOrder hKind⟩
  · rintro ⟨v, rfl, hKind, hField, hLiteral⟩
    refine ⟨⟨v, rfl, hKind⟩, ?_⟩
    rw [toLiteral, ne_eq, ofFields_eq_unordered_iff]
    rintro ⟨-, hNaN | hNaN⟩
    · exact hField hNaN
    · exact hLiteral hNaN

end Standing

namespace Comparison

/-- The comparison that denies what this one says. -/
def opposite : Comparison → Comparison
  | .eq => .ne
  | .ne => .eq
  | .gt => .le
  | .ge => .lt
  | .lt => .ge
  | .le => .gt

theorem not_holdsOf_both (c : Comparison) (s : Standing) :
    ¬(c.holdsOf s = true ∧ c.opposite.holdsOf s = true) := by
  cases c <;> cases s <;> decide

/-- Where nothing is compared both opposites fail, and without an order all but inequality. -/
theorem holdsOf_ne_opposite_iff (c : Comparison) (s : Standing) :
    c.holdsOf s ≠ c.opposite.holdsOf s ↔
      s ≠ .incomparable ∧ (c = .eq ∨ c = .ne ∨ s ≠ .unordered) := by
  cases c <;> cases s <;> decide

theorem holdsOf_le_iff (s : Standing) :
    Comparison.le.holdsOf s = true ↔
      Comparison.lt.holdsOf s = true ∨ Comparison.eq.holdsOf s = true := by
  cases s <;> decide

theorem holdsOf_ge_iff (s : Standing) :
    Comparison.ge.holdsOf s = true ↔
      Comparison.gt.holdsOf s = true ∨ Comparison.eq.holdsOf s = true := by
  cases s <;> decide

theorem holdsOf_at_most_one (s : Standing) :
    [Comparison.lt, .eq, .gt].Pairwise fun c d =>
      ¬(c.holdsOf s = true ∧ d.holdsOf s = true) := by
  cases s <;> decide

end Comparison

namespace Atom

open Matcher

/-- **Opposite operators are coherent.** Among atoms that are alike but for their operators, no
field fits two opposite ones, and one of the two fits where the field and the literal can be
compared, in order where the operators speak of order. -/
theorem operators_coherent {R : LiteralReader} (a : Atom R) (f : Field) :
    Coherent (fun op => (a.under op).fits f) a.literal f := by
  have hCompare : ∀ c, (a.under (.compare c)).fits f = c.holdsOf (.toLiteral f a.literal) :=
    fits_compare (R := R) a.literal f
  have hAbsent : (a.under .absent).fits f = true ↔ f = .absent :=
    fits_absent_iff (R := R) a.literal f
  have hPresent : (a.under .present).fits f = true ↔ f ≠ .absent :=
    fits_present_iff (R := R) a.literal f
  have hIn := fits_isIn_iff (R := R) a.literal f
  have hNotIn := fits_notIn_iff (R := R) a.literal f
  rw [← fits_under] at hIn hNotIn
  have hKind := Standing.toLiteral_ne_incomparable_iff f a.literal
  have hOrder := Standing.toLiteral_ordered_iff f a.literal
  generalize Standing.toLiteral f a.literal = s at hCompare hKind hOrder
  constructor
  case never_both =>
    have hBoth : ∀ c : Comparison, ¬((a.under (.compare c)).fits f = true ∧
        (a.under (.compare c.opposite)).fits f = true) := by
      intro c
      rw [hCompare, hCompare]
      exact c.not_holdsOf_both s
    simp only [Operator.opposites, List.forall_mem_cons]
    refine ⟨hBoth .eq, hBoth .gt, hBoth .lt, ?_, ?_, nofun⟩
    · rintro ⟨h, hNot⟩
      rw [(hIn.mp h).2] at hNotIn
      cases (hNotIn.mp hNot).2
    · rintro ⟨h, hNot⟩
      exact hPresent.mp hNot (hAbsent.mp h)
  case presence =>
    intro hSame
    rw [Bool.eq_iff_iff, hAbsent, hPresent] at hSame
    exact iff_not_self hSame
  case membership =>
    intro _
    rw [ne_eq, Bool.eq_iff_iff, hIn, hNotIn]
    cases isItem (literalItems a.literal) f <;> simp
  case equality =>
    rw [hCompare, hCompare, ← hKind]
    exact (Comparison.holdsOf_ne_opposite_iff .eq s).trans (by simp)
  case above =>
    rw [hCompare, hCompare, ← hOrder]
    exact (Comparison.holdsOf_ne_opposite_iff .gt s).trans (by simp)
  case below =>
    rw [hCompare, hCompare, ← hOrder]
    exact (Comparison.holdsOf_ne_opposite_iff .lt s).trans (by simp)
  case le_iff =>
    rw [hCompare, hCompare, hCompare]
    exact Comparison.holdsOf_le_iff s
  case ge_iff =>
    rw [hCompare, hCompare, hCompare]
    exact Comparison.holdsOf_ge_iff s
  case at_most_one =>
    simp only [hCompare]
    exact Comparison.holdsOf_at_most_one s

end Atom

end RuleVerdict
