import RuleVerdict.Proofs.Atom.Operators
import RuleVerdict.Proofs.Interval.Syntax
import RuleVerdict.Proofs.Text.Items

/-!
# Lying in an interval

An interval stands for a comparison with each bound it has: what may be equal to the bound is said
by the bracket on its side. To lie between the bounds of a literal is to be a number or a truth
value that passes these comparisons, which is what the atoms that compare with the bounds ask for.

* `contains_iff`: what an interval contains.
* `encloses_iff_sides`: the comparisons that an interval stands for.
* `liesIn_iff_bounds`: the fields that lie between the bounds of a literal.
-/

namespace RuleVerdict

namespace Interval

/-- The comparison with the lower bound. -/
def lowerComparison (closed : Bool) : Comparison := if closed then .ge else .gt

/-- The comparison with the upper bound. -/
def upperComparison (closed : Bool) : Comparison := if closed then .le else .lt

/-- What an interval asks of a number; where there is no bound, nothing. -/
structure Encloses (i : Interval) (x : Binary64) : Prop where
  lower : ∀ b, i.lower = some b → (lowerComparison i.lowerClosed).onNumbers x b = true
  upper : ∀ b, i.upper = some b → (upperComparison i.upperClosed).onNumbers x b = true

variable (i : Interval) (x : Binary64)

theorem aboveLower_iff :
    i.aboveLower x = true ↔
      ∀ b, i.lower = some b → (lowerComparison i.lowerClosed).onNumbers x b = true := by
  unfold aboveLower lowerComparison
  cases i.lower with
  | none => exact iff_of_true rfl nofun
  | some a => cases i.lowerClosed <;> simp [Comparison.onNumbers]

theorem belowUpper_iff :
    i.belowUpper x = true ↔
      ∀ b, i.upper = some b → (upperComparison i.upperClosed).onNumbers x b = true := by
  unfold belowUpper upperComparison
  cases i.upper with
  | none => exact iff_of_true rfl nofun
  | some b => cases i.upperClosed <;> simp [Comparison.onNumbers]

theorem contains_iff : i.contains x = true ↔ i.Encloses x := by
  rw [contains, Bool.and_eq_true, aboveLower_iff, belowUpper_iff]
  exact ⟨fun h => ⟨h.1, h.2⟩, fun h => ⟨h.lower, h.upper⟩⟩

/-- The comparisons that an interval stands for, one for each bound it has. -/
def sides : List (Comparison × Binary64) :=
  i.lower.toList.map (lowerComparison i.lowerClosed, ·) ++
    i.upper.toList.map (upperComparison i.upperClosed, ·)

variable {i x} in
theorem mem_sides_iff {side : Comparison × Binary64} :
    side ∈ i.sides ↔
      (∃ b, i.lower = some b ∧ (lowerComparison i.lowerClosed, b) = side) ∨
        ∃ b, i.upper = some b ∧ (upperComparison i.upperClosed, b) = side := by
  simp only [sides, List.mem_append, List.mem_map, Option.mem_toList]

theorem encloses_iff_sides :
    i.Encloses x ↔ ∀ side ∈ i.sides, side.1.onNumbers x side.2 = true := by
  constructor
  · intro h side hSide
    rcases mem_sides_iff.mp hSide with ⟨b, hb, rfl⟩ | ⟨b, hb, rfl⟩
    · exact h.lower b hb
    · exact h.upper b hb
  · intro h
    constructor
    · intro b hb
      exact h _ (mem_sides_iff.mpr (.inl ⟨b, hb, rfl⟩))
    · intro b hb
      exact h _ (mem_sides_iff.mpr (.inr ⟨b, hb, rfl⟩))

/-- A text that writes an interval, but for blanks around it. -/
def IsLiteral (number? : NumberReader) (s : String) (i : Interval) : Prop :=
  ∃ cs, Text.Trims s.toList cs ∧ Writes number? cs i

theorem read?_eq_some_iff_isLiteral {number? : NumberReader}
    (hNumber : NumberReader.Lawful number?) {s : String} {i : Interval} :
    read? number? s = some i ↔ IsLiteral number? s i := by
  rw [read?_eq_some_iff hNumber]
  constructor
  · intro h
    exact ⟨_, Text.trims_trim _, h⟩
  · rintro ⟨cs, hTrims, hWrites⟩
    rwa [Text.trim_eq_iff.mpr hTrims]

end Interval

namespace Matcher

/-- A comparison with a number. -/
theorem fits_compare_number {R : LiteralReader} (c : Comparison) (b : Binary64) (f : Field) :
    (prepare R (.compare c) (some (.float b))).fits f = true ↔
      ∃ x, f.asNumber = some x ∧ c.onNumbers x b = true := by
  cases f <;> simp [prepare, fits, fitsScalar, Comparison.onFields, Value.field, Field.asNumber]

end Matcher

namespace Atom

variable {R : LiteralReader} (a : Atom R)

/-- Whether a field lies between the bounds of a literal. -/
def liesIn (s : String) (f : Field) : Bool := ((a.against (.text s)).under .between).fits f

/-- Whether a field passes a comparison with a bound. -/
def passes (side : Comparison × Binary64) (f : Field) : Bool :=
  ((a.against (.float side.2)).under (.compare side.1)).fits f

theorem liesIn_iff (hNumber : Interval.NumberReader.Lawful R.number?) {s : String} {f : Field} :
    a.liesIn s f = true ↔
      ∃ i x, Interval.IsLiteral R.number? s i ∧ f.asNumber = some x ∧ i.Encloses x := by
  rw [liesIn, fits_against_under, Matcher.fits_between_iff]
  constructor
  · rintro ⟨t, i, x, hText, hRead, hx, hContains⟩
    obtain rfl := Value.text.inj (Option.some.inj hText)
    exact ⟨i, x, (Interval.read?_eq_some_iff_isLiteral hNumber).mp hRead, hx,
      (i.contains_iff x).mp hContains⟩
  · rintro ⟨i, x, hLiteral, hx, hEncloses⟩
    exact ⟨s, i, x, rfl, (Interval.read?_eq_some_iff_isLiteral hNumber).mpr hLiteral, hx,
      (i.contains_iff x).mpr hEncloses⟩

theorem passes_iff {side : Comparison × Binary64} {f : Field} :
    a.passes side f = true ↔ ∃ x, f.asNumber = some x ∧ side.1.onNumbers x side.2 = true :=
  Matcher.fits_compare_number (R := R) side.1 side.2 f

/-- Passing all comparisons, of which there is one. -/
theorem forall_passes_iff {sides : List (Comparison × Binary64)} (h : sides ≠ []) {f : Field} :
    (∀ side ∈ sides, a.passes side f = true) ↔
      ∃ x, f.asNumber = some x ∧ ∀ side ∈ sides, side.1.onNumbers x side.2 = true := by
  simp only [passes_iff]
  constructor
  · intro hAll
    obtain ⟨first, rest, rfl⟩ := List.exists_cons_of_ne_nil h
    obtain ⟨x, hx, -⟩ := hAll first List.mem_cons_self
    refine ⟨x, hx, fun side hSide => ?_⟩
    obtain ⟨y, hy, hPasses⟩ := hAll side hSide
    obtain rfl := Option.some.inj (hx.symm.trans hy)
    exact hPasses
  · rintro ⟨x, hx, hAll⟩ side hSide
    exact ⟨x, hx, hAll side hSide⟩

/-- **Lying in an interval.** A field lies between the bounds of a literal if the literal is an
interval and the field is a number or a truth value that the interval encloses. With any bound at
all, this is to pass the comparisons that the interval stands for. -/
theorem liesIn_iff_bounds (hNumber : Interval.NumberReader.Lawful R.number?) (s : String) :
    (∀ f, a.liesIn s f = true ↔
      ∃ i x, Interval.IsLiteral R.number? s i ∧ f.asNumber = some x ∧ i.Encloses x) ∧
    ∀ i, Interval.IsLiteral R.number? s i → i.sides ≠ [] →
      ∀ f, a.liesIn s f = true ↔ ∀ side ∈ i.sides, a.passes side f = true := by
  refine ⟨fun f => a.liesIn_iff hNumber, ?_⟩
  intro i hLiteral hSides f
  rw [a.liesIn_iff hNumber, a.forall_passes_iff hSides]
  constructor
  · rintro ⟨j, x, hOther, hx, hEncloses⟩
    -- A text writes one interval only.
    rw [← Interval.read?_eq_some_iff_isLiteral hNumber] at hLiteral hOther
    obtain rfl := Option.some.inj (hLiteral.symm.trans hOther)
    exact ⟨x, hx, (i.encloses_iff_sides x).mp hEncloses⟩
  · rintro ⟨x, hx, hAll⟩
    exact ⟨i, x, hLiteral, hx, (i.encloses_iff_sides x).mpr hAll⟩

/-- The padded interval from one up to three takes its lower bound in. -/
theorem liesIn_iff_bounds_half_open :
    let a : Atom := ⟨1, "f", .between, none, "", _, rfl⟩
    let i : Interval := ⟨some .one, true, some (.ofInt 3), false⟩
    Interval.IsLiteral Interval.readNumber "\n[ 1 ,\t3 ) " i ∧
      i.sides = [(.ge, .one), (.lt, .ofInt 3)] ∧
      a.liesIn "\n[ 1 ,\t3 ) " (.bool true) = true := by
  intro a i
  have hNumber := Interval.lawful_readNumber
  have hLiteral : Interval.IsLiteral Interval.readNumber "\n[ 1 ,\t3 ) " i :=
    (Interval.read?_eq_some_iff_isLiteral hNumber).mp (by decide +kernel)
  refine ⟨hLiteral, rfl, ?_⟩
  obtain ⟨-, hBounds⟩ := liesIn_iff_bounds a hNumber "\n[ 1 ,\t3 ) "
  rw [hBounds i hLiteral (by decide +kernel)]
  decide +kernel

end Atom

end RuleVerdict
