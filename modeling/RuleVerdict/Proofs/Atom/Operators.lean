import RuleVerdict.Atom
import RuleVerdict.Proofs.Atom.Comparisons

/-!
# What each operator asks of a field

For every operator, the fields that fit it, said of the literal as it is written and of all fields,
the absent one and the unsupported one included. What is prepared beforehand no longer shows, and
what literals are read with shows only where one is read.

* `fits_compare`: a comparison asks how the field stands to the literal.
* `fits_isIn_iff`, `fits_notIn_iff`, `fits_intersect_iff`: lists.
* `fits_between_iff`, `fits_pattern_iff`: literals that are read.
-/

namespace RuleVerdict

/-- How a field stands to a literal; where there is none, nothing is compared. -/
def Standing.toLiteral (f : Field) : Option Value → Standing
  | none => .incomparable
  | some v => .ofFields f v.field

/-- There is a literal, and it is of the same kind as the field. -/
def Field.ComparableTo (f : Field) (literal : Option Value) : Prop :=
  ∃ v, literal = some v ∧ f.Comparable v.field

theorem Standing.toLiteral_ne_incomparable_iff (f : Field) (literal : Option Value) :
    toLiteral f literal ≠ incomparable ↔ f.ComparableTo literal := by
  cases literal with
  | none => exact iff_of_false (fun h => h rfl) nofun
  | some v =>
    rw [toLiteral, ne_eq, ofFields_eq_incomparable_iff, Classical.not_not]
    constructor
    · exact fun h => ⟨v, rfl, h⟩
    · rintro ⟨w, hw, h⟩
      obtain rfl := Option.some.inj hw
      exact h

namespace Matcher

variable {R : LiteralReader} (literal : Option Value) (f : Field)

theorem fits_absent_iff : (prepare R .absent literal).fits f = true ↔ f = .absent := by
  cases f <;> simp [prepare, fits, fitsScalar]

theorem fits_present_iff : (prepare R .present literal).fits f = true ↔ f ≠ .absent := by
  cases f <;> simp [prepare, fits, fitsScalar]

theorem fits_compare (c : Comparison) :
    (prepare R (.compare c) literal).fits f = c.holdsOf (.toLiteral f literal) := by
  cases literal with
  | none => exact (fits_never f).trans c.holdsOf_incomparable.symm
  | some v =>
    rw [Standing.toLiteral, ← c.onFields_eq]
    cases f <;> rfl

theorem comparableTo_of_fits {literal : Option Value} {f : Field} {c : Comparison}
    (h : (prepare R (.compare c) literal).fits f = true) : f.ComparableTo literal := by
  rw [← Standing.toLiteral_ne_incomparable_iff]
  intro hNone
  rw [fits_compare, hNone, c.holdsOf_incomparable] at h
  cases h

theorem fits_isIn_iff :
    (prepare R .isIn literal).fits f = true ↔
      f.IsScalar ∧ isItem (literalItems literal) f = true := by
  cases f <;> simp [prepare, fits, fitsScalar, Field.isScalar_iff]

theorem fits_notIn_iff :
    (prepare R .notIn literal).fits f = true ↔
      f.IsScalar ∧ isItem (literalItems literal) f = false := by
  cases f <;> simp [prepare, fits, fitsScalar, Field.isScalar_iff]

theorem fits_intersect_iff :
    (prepare R .intersect literal).fits f = true ↔
      ∃ s, f.render = some s ∧ ∃ item ∈ listItems s, item ∈ literalItems literal := by
  cases f <;> simp [prepare, fits, fitsScalar, shareItem, Field.render]

/-- A text that writes an interval. -/
theorem bind_interval_eq_some_iff {i : Interval} :
    (literal.bind Value.text?).bind (Interval.read? R.number?) = some i ↔
      ∃ s, literal = some (.text s) ∧ Interval.read? R.number? s = some i := by
  simp only [Option.bind_eq_some_iff]
  constructor
  · rintro ⟨s, ⟨v, hv, hs⟩, hi⟩
    cases v with
    | text t => exact ⟨s, hv.trans (congrArg _ (congrArg _ (Option.some.inj hs))), hi⟩
    | _ => cases hs
  · rintro ⟨s, hs, hi⟩
    exact ⟨s, ⟨.text s, hs, rfl⟩, hi⟩

theorem fits_between_iff :
    (prepare R .between literal).fits f = true ↔
      ∃ s i x, literal = some (.text s) ∧ Interval.read? R.number? s = some i ∧
        f.asNumber = some x ∧ i.contains x = true := by
  have hFits : ∀ i : Interval,
      (between i).fits f = true ↔ ∃ x, f.asNumber = some x ∧ i.contains x = true := by
    intro i
    cases f <;> simp [fits, fitsScalar, Field.asNumber]
  cases h : (literal.bind Value.text?).bind (Interval.read? R.number?) with
  | none =>
    rw [prepare, h]
    refine iff_of_false (by rw [fits_never]; decide) ?_
    rintro ⟨s, i, x, hs, hi, -⟩
    rw [(bind_interval_eq_some_iff literal).mpr ⟨s, hs, hi⟩] at h
    cases h
  | some i =>
    obtain ⟨s, hs, hi⟩ := (bind_interval_eq_some_iff literal).mp h
    rw [prepare, h, hFits]
    constructor
    · rintro ⟨x, hx, hIn⟩
      exact ⟨s, i, x, hs, hi, hx, hIn⟩
    · rintro ⟨s', i', x, hs', hi', hx, hIn⟩
      obtain rfl : i = i' :=
        Option.some.inj (h.symm.trans ((bind_interval_eq_some_iff literal).mpr ⟨s', hs', hi'⟩))
      exact ⟨x, hx, hIn⟩

theorem fits_pattern_iff :
    (prepare R .pattern literal).fits f = true ↔
      ∃ v accepts s, literal = some v ∧ R.pattern? v.literalText = some accepts ∧
        f.render = some s ∧ accepts s.toList = true := by
  have hFits : ∀ accepts : List Char → Bool,
      (pattern accepts).fits f = true ↔ ∃ s, f.render = some s ∧ accepts s.toList = true := by
    intro accepts
    cases f <;> simp [fits, fitsScalar, Field.render]
  cases h : literal.bind fun v => R.pattern? v.literalText with
  | none =>
    rw [prepare, h]
    refine iff_of_false (by rw [fits_never]; decide) ?_
    rintro ⟨v, accepts, s, rfl, hRead, -⟩
    rw [Option.bind_some, hRead] at h
    cases h
  | some accepts =>
    obtain ⟨v, rfl, hRead⟩ := Option.bind_eq_some_iff.mp h
    rw [prepare, h, hFits]
    constructor
    · rintro ⟨s, hs, hMatch⟩
      exact ⟨v, accepts, s, rfl, hRead, hs, hMatch⟩
    · rintro ⟨_, other, s, ⟨⟩, hOther, hs, hMatch⟩
      obtain rfl : accepts = other := Option.some.inj (hRead.symm.trans hOther)
      exact ⟨s, hs, hMatch⟩

end Matcher

namespace Atom

variable {R : LiteralReader}

/-- The atom with another operator and all else as it is. -/
def under (a : Atom R) (op : Operator) : Atom R :=
  { a with op, matcher := Matcher.prepare R op a.literal, matcher_eq := rfl }

theorem fits_under (a : Atom R) (op : Operator) (f : Field) :
    (a.under op).fits f = (Matcher.prepare R op a.literal).fits f := rfl

/-- The atom with another literal and all else as it is. -/
def against (a : Atom R) (v : Value) : Atom R :=
  { a with literal := some v, matcher := Matcher.prepare R a.op (some v), matcher_eq := rfl }

theorem fits_against_under (a : Atom R) (v : Value) (op : Operator) (f : Field) :
    ((a.against v).under op).fits f = (Matcher.prepare R op (some v)).fits f := rfl

end Atom

end RuleVerdict
