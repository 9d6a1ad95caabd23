import RuleVerdict.Proofs.Atom.Operators
import RuleVerdict.Proofs.Interval.Syntax

/-!
# Atoms without anything to judge

A field may be missing or of no use, and so may a literal: it is not there, it is no pattern, it is
no interval, or it is of another kind than the field. Apart from the two operators that ask only
whether anything is there, an atom does not fit then. There is one exception. Without a literal
nothing is in the list, so what asks for fields outside the list accepts every number, text and
truth value. All this holds whatever reader says which texts are patterns and numbers.

* `fits_field_absent_iff`, `fits_field_unsupported_iff`: which operators accept a missing field and
  one of no use.
* `Degraded`: where an operator has nothing to judge.
* `fits_of_degraded`: what fits all the same.
-/

namespace RuleVerdict

open Text

/-- Where an operator has nothing to judge: the field or the literal is of no use to it. -/
inductive Degraded (R : LiteralReader) (literal : Option Value) (f : Field) : Operator → Prop
  | absent (op : Operator) (h : f = .absent) : Degraded R literal f op
  | unsupported (op : Operator) (h : f = .unsupported) : Degraded R literal f op
  | missing (op : Operator) (h : literal = none) : Degraded R literal f op
  | pattern {v : Value} (h : literal = some v) (hRead : R.pattern? v.literalText = none) :
      Degraded R literal f .pattern
  | interval (h : ∀ s i, literal = some (.text s) → ¬Interval.Writes R.number? (trim s.toList) i) :
      Degraded R literal f .between
  | kind {v : Value} (c : Comparison) (h : literal = some v)
      (hText : ¬(f.IsText ↔ v.field.IsText)) : Degraded R literal f (.compare c)

namespace Matcher

variable {R : LiteralReader} {literal : Option Value} {f : Field} {op : Operator}

theorem isScalar_of_fits (h : (prepare R op literal).fits f = true) (hAbsent : op ≠ .absent)
    (hPresent : op ≠ .present) : f.IsScalar := by
  have hRender : ∀ s, f.render = some s → f.IsScalar := by
    rintro s hs
    rw [Field.isScalar_iff]
    constructor <;> rintro rfl <;> cases hs
  cases op with
  | absent => exact absurd rfl hAbsent
  | present => exact absurd rfl hPresent
  | compare c =>
    obtain ⟨v, -, hKind⟩ := comparableTo_of_fits h
    exact hKind.isScalar
  | isIn => exact ((fits_isIn_iff literal f).mp h).1
  | notIn => exact ((fits_notIn_iff literal f).mp h).1
  | intersect =>
    obtain ⟨s, hs, -⟩ := (fits_intersect_iff literal f).mp h
    exact hRender s hs
  | between =>
    obtain ⟨-, -, x, -, -, hx, -⟩ := (fits_between_iff literal f).mp h
    exact .inr (Field.isNumeric_iff.mpr ⟨x, hx⟩)
  | pattern =>
    obtain ⟨-, -, s, -, -, hs, -⟩ := (fits_pattern_iff literal f).mp h
    exact hRender s hs

/-- What fits where there is nothing. -/
theorem fits_field_absent_iff : (prepare R op literal).fits .absent = true ↔ op = .absent := by
  constructor
  · intro h
    by_contra hAbsent
    by_cases hPresent : op = .present
    · rw [hPresent] at h
      exact (fits_present_iff literal _).mp h rfl
    · exact (Field.isScalar_iff.mp (isScalar_of_fits h hAbsent hPresent)).1 rfl
  · rintro rfl
    exact (fits_absent_iff literal _).mpr rfl

/-- What fits where there is something that no comparison accepts. -/
theorem fits_field_unsupported_iff :
    (prepare R op literal).fits .unsupported = true ↔ op = .present := by
  constructor
  · intro h
    by_contra hPresent
    by_cases hAbsent : op = .absent
    · rw [hAbsent] at h
      cases (fits_absent_iff literal _).mp h
    · exact (Field.isScalar_iff.mp (isScalar_of_fits h hAbsent hPresent)).2 rfl
  · rintro rfl
    exact (fits_present_iff literal _).mpr nofun

/-- Nothing is an item of the list without items. -/
theorem isItem_nil (f : Field) : isItem [] f = false := by
  unfold isItem
  split
  · rfl
  · split <;> rfl

/-- Whatever fits without a literal is outside the list without items. -/
theorem eq_notIn_of_fits_none (h : (prepare R op none).fits f = true) (hAbsent : op ≠ .absent)
    (hPresent : op ≠ .present) : op = .notIn := by
  cases op with
  | absent => exact absurd rfl hAbsent
  | present => exact absurd rfl hPresent
  | notIn => rfl
  | compare c =>
    obtain ⟨v, hv, -⟩ := comparableTo_of_fits h
    cases hv
  | isIn =>
    have hItem := ((fits_isIn_iff none f).mp h).2
    rw [literalItems, isItem_nil] at hItem
    cases hItem
  | intersect =>
    obtain ⟨-, -, item, -, hMem⟩ := (fits_intersect_iff none f).mp h
    cases hMem
  | between =>
    obtain ⟨s, -, -, hs, -⟩ := (fits_between_iff none f).mp h
    cases hs
  | pattern =>
    obtain ⟨v, -, -, hv, -⟩ := (fits_pattern_iff none f).mp h
    cases hv

theorem fits_iff_of_degraded (hNumber : Interval.NumberReader.Lawful R.number?)
    (hAbsent : op ≠ .absent) (hPresent : op ≠ .present) (h : Degraded R literal f op) :
    (prepare R op literal).fits f = true ↔ op = .notIn ∧ literal = none ∧ f.IsScalar := by
  constructor
  · intro hFits
    have hScalar := isScalar_of_fits hFits hAbsent hPresent
    cases h with
    | absent _ hf => exact absurd hf (Field.isScalar_iff.mp hScalar).1
    | unsupported _ hf => exact absurd hf (Field.isScalar_iff.mp hScalar).2
    | missing _ hNone =>
      subst hNone
      exact ⟨eq_notIn_of_fits_none hFits hAbsent hPresent, rfl, hScalar⟩
    | @pattern v hv hRead =>
      obtain ⟨w, accepts, -, hw, hAccepts, -⟩ := (fits_pattern_iff literal f).mp hFits
      obtain rfl := Option.some.inj (hv.symm.trans hw)
      rw [hRead] at hAccepts
      cases hAccepts
    | interval hText =>
      obtain ⟨s, i, -, hs, hi, -⟩ := (fits_between_iff literal f).mp hFits
      exact absurd ((Interval.read?_eq_some_iff hNumber).mp hi) (hText s i hs)
    | kind c hv hText =>
      obtain ⟨w, hw, hKind⟩ := comparableTo_of_fits hFits
      obtain rfl := Option.some.inj (hv.symm.trans hw)
      rcases hKind with ⟨hf, hLiteral⟩ | ⟨hf, hLiteral⟩
      · exact absurd (iff_of_true hf hLiteral) hText
      · exact absurd (iff_of_false hf.not_isText hLiteral.not_isText) hText
  · rintro ⟨rfl, rfl, hScalar⟩
    exact (fits_notIn_iff none f).mpr ⟨hScalar, isItem_nil f⟩

end Matcher

namespace Atom

open Matcher

/-- **What an atom makes of a field or a literal of no use.** The two operators that ask whether
anything is there answer just that. Under any other an atom does not fit, unless it asks for what
is outside of a list that is not given. -/
theorem fits_of_degraded {R : LiteralReader} (hNumber : Interval.NumberReader.Lawful R.number?)
    (a : Atom R) (f : Field) :
    (a.op = .absent → (a.fits f = true ↔ f = .absent)) ∧
      (a.op = .present → (a.fits f = true ↔ f ≠ .absent)) ∧
      (a.op ≠ .absent → a.op ≠ .present → Degraded R a.literal f a.op →
        (a.fits f = true ↔ a.op = .notIn ∧ a.literal = none ∧ f.IsScalar)) := by
  rw [fits_eq]
  refine ⟨fun h => ?_, fun h => ?_, fits_iff_of_degraded hNumber⟩
  · rw [h]
    exact fits_absent_iff a.literal f
  · rw [h]
    exact fits_present_iff a.literal f

/-- An interval without its closing bracket contains no number. -/
theorem fits_of_degraded_unclosed_interval :
    let a : Atom := ⟨1, "f", .between, some (.text "[1,2"), "", _, rfl⟩
    Degraded .standard a.literal (.number .one) a.op ∧ a.fits (.number .one) = false := by
  intro a
  have hNumber := Interval.lawful_readNumber
  have hRead : Interval.read? Interval.readNumber "[1,2" = none := by decide +kernel
  have hDegraded : Degraded .standard a.literal (.number .one) a.op := by
    refine .interval fun s i hs hWrites => ?_
    obtain rfl : "[1,2" = s := Value.text.inj (Option.some.inj hs)
    rw [(Interval.read?_eq_some_iff hNumber).mpr hWrites] at hRead
    cases hRead
  refine ⟨hDegraded, Bool.eq_false_iff.mpr fun hFits => ?_⟩
  have hOp := ((fits_of_degraded hNumber a (.number .one)).2.2 nofun nofun hDegraded).mp hFits
  cases hOp.1

/-- Not every atom refuses what it cannot judge: outside of a list that is not given there is
everything. -/
theorem not_refused_without_list :
    ¬∀ (a : Atom) (f : Field), a.op ≠ .absent → a.op ≠ .present →
      Degraded .standard a.literal f a.op → a.fits f = false := by
  intro h
  have hFits :=
    h ⟨1, "f", .notIn, none, "", _, rfl⟩ (.number .one) nofun nofun (.missing .notIn rfl)
  exact absurd hFits (by decide +kernel)

end Atom

end RuleVerdict
