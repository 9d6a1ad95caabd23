import Mathlib.Tactic.ByContra
import RuleVerdict.Matcher

/-!
# How fields stand to each other

Two fields stand to each other in one of five ways: the first lies below the second, is the same,
lies above, cannot be ordered because one of the two is no number, or is of a kind that is not
compared with the other's. A comparison depends on nothing but this, so that each law of
comparisons is a matter of five cases, whatever is compared.

* `onFields_eq`: comparing is asking how the fields stand.
* `ofFields_eq_incomparable_iff`, `ofFields_eq_unordered_iff`: which fields have no order.
* `ofFields_eq_same_iff`: which fields are the same.
-/

namespace RuleVerdict

namespace Field

/-- A text. -/
def IsText (f : Field) : Prop := ∃ s, f = .text s

/-- What counts as a number: a number or a truth value. -/
inductive IsNumeric : Field → Prop
  | number (x : Binary64) : IsNumeric (.number x)
  | bool (b : Bool) : IsNumeric (.bool b)

/-- Something that can be compared was found. -/
def IsScalar (f : Field) : Prop := f.IsText ∨ f.IsNumeric

/-- A pattern that stands in the place of a number and is none. -/
def IsNaN (f : Field) : Prop := ∃ x, f = .number x ∧ x.isNaN = true

/-- Two texts, or two fields that count as numbers. -/
def Comparable (a b : Field) : Prop := a.IsText ∧ b.IsText ∨ a.IsNumeric ∧ b.IsNumeric

theorem isNumeric_iff {f : Field} : f.IsNumeric ↔ ∃ x, f.asNumber = some x := by
  constructor
  · rintro (x | b) <;> exact ⟨_, rfl⟩
  · rintro ⟨x, hx⟩
    cases f with
    | number y => exact .number y
    | bool b => exact .bool b
    | _ => cases hx

theorem IsNumeric.not_isText {f : Field} (h : f.IsNumeric) : ¬f.IsText := by
  rintro ⟨s, rfl⟩
  cases h

theorem Comparable.isScalar {a b : Field} (h : Comparable a b) : a.IsScalar := by
  rcases h with ⟨hText, -⟩ | ⟨hNumeric, -⟩
  · exact .inl hText
  · exact .inr hNumeric

theorem isScalar_iff {f : Field} : f.IsScalar ↔ f ≠ .absent ∧ f ≠ .unsupported := by
  constructor
  · rintro (⟨s, rfl⟩ | (x | b)) <;> exact ⟨nofun, nofun⟩
  · rintro ⟨hAbsent, hUnsupported⟩
    cases f with
    | number x => exact .inr (.number x)
    | text s => exact .inl ⟨s, rfl⟩
    | bool b => exact .inr (.bool b)
    | absent => exact absurd rfl hAbsent
    | unsupported => exact absurd rfl hUnsupported

/-- One and zero are numbers. -/
theorem isNaN_iff_of_asNumber {f : Field} {x : Binary64} (h : f.asNumber = some x) :
    f.IsNaN ↔ x.isNaN = true := by
  cases f with
  | number y =>
    obtain rfl : y = x := Option.some.inj h
    constructor
    · rintro ⟨z, hz, hNaN⟩
      obtain rfl : y = z := Field.number.inj hz
      exact hNaN
    · exact fun hNaN => ⟨y, rfl, hNaN⟩
  | bool b =>
    obtain rfl : (if b then Binary64.one else Binary64.zero) = x := Option.some.inj h
    have hNumber : (if b then Binary64.one else Binary64.zero).isNaN = false := by
      cases b <;> decide +kernel
    rw [hNumber]
    exact ⟨nofun, nofun⟩
  | _ => cases h

end Field

/-- How the first of two fields stands to the second. -/
inductive Standing where
  | below
  | same
  | above
  | unordered
  | incomparable
  deriving DecidableEq

namespace Standing

/-- How two texts stand. -/
def ofTexts (s t : String) : Standing := if s < t then below else if t < s then above else same

/-- How two numbers stand. -/
def ofNumbers (x y : Binary64) : Standing :=
  if x.isNaN || y.isNaN then unordered
  else if x.rank < y.rank then below
  else if y.rank < x.rank then above
  else same

/-- How two fields stand. -/
def ofFields (a b : Field) : Standing :=
  match a, b with
  | .text s, .text t => ofTexts s t
  | a, b =>
    match a.asNumber, b.asNumber with
    | some x, some y => ofNumbers x y
    | _, _ => incomparable

end Standing

namespace Comparison

/-- Whether the comparison holds of fields that stand so. -/
def holdsOf : Comparison → Standing → Bool
  | .eq, .same => true
  | .ne, .below | .ne, .above | .ne, .unordered => true
  | .gt, .above => true
  | .ge, .above | .ge, .same => true
  | .lt, .below => true
  | .le, .below | .le, .same => true
  | _, _ => false

theorem onTexts_eq (c : Comparison) (s t : String) :
    c.onTexts s t = c.holdsOf (.ofTexts s t) := by
  unfold Standing.ofTexts
  split
  · next hBelow =>
    have hNot : ¬t < s := String.lt_asymm hBelow
    have hNe : s ≠ t := fun h => String.lt_irrefl t (h ▸ hBelow)
    cases c <;> simp [onTexts, holdsOf, hBelow, hNot, hNe]
  · next hNotBelow =>
    split
    · next hAbove =>
      have hNe : s ≠ t := fun h => String.lt_irrefl t (h ▸ hAbove)
      cases c <;> simp [onTexts, holdsOf, hNotBelow, hAbove, hNe]
    · next hNotAbove =>
      obtain rfl : s = t :=
        String.le_antisymm (String.not_lt.mp hNotAbove) (String.not_lt.mp hNotBelow)
      have hNot : decide (s < s) = false := decide_eq_false hNotBelow
      cases c <;> simp only [onTexts, holdsOf, hNot, beq_self_eq_true, bne_self_eq_false,
        Bool.not_false]

theorem onNumbers_eq (c : Comparison) (x y : Binary64) :
    c.onNumbers x y = c.holdsOf (.ofNumbers x y) := by
  unfold Standing.ofNumbers
  split
  · next hNaN =>
    rw [Bool.or_eq_true] at hNaN
    rcases hNaN with hNaN | hNaN <;>
      cases c <;> simp [onNumbers, holdsOf, Binary64.eq, Binary64.lt, Binary64.le, hNaN]
  · next hNumbers =>
    simp only [Bool.or_eq_true, not_or, Bool.not_eq_true] at hNumbers
    obtain ⟨hx, hy⟩ := hNumbers
    split
    · next hBelow =>
      have hNe : x.rank ≠ y.rank := by omega
      have hNot : ¬y.rank ≤ x.rank := by omega
      have hLe : x.rank ≤ y.rank := by omega
      have hNotLt : ¬y.rank < x.rank := by omega
      cases c <;> simp [onNumbers, holdsOf, Binary64.eq, Binary64.lt, Binary64.le, *]
    · next hNotBelow =>
      split
      · next hAbove =>
        have hNe : x.rank ≠ y.rank := by omega
        have hNot : ¬x.rank ≤ y.rank := by omega
        have hLe : y.rank ≤ x.rank := by omega
        cases c <;> simp [onNumbers, holdsOf, Binary64.eq, Binary64.lt, Binary64.le, *]
      · next hNotAbove =>
        have hSame : x.rank = y.rank := by omega
        cases c <;> simp [onNumbers, holdsOf, Binary64.eq, Binary64.lt, Binary64.le, *]

theorem holdsOf_incomparable (c : Comparison) : c.holdsOf .incomparable = false := by
  cases c <;> rfl

theorem holdsOf_eq_iff {s : Standing} : Comparison.eq.holdsOf s = true ↔ s = .same := by
  cases s <;> decide

/-- Comparing is asking how the fields stand. -/
theorem onFields_eq (c : Comparison) (a b : Field) :
    c.onFields a b = c.holdsOf (.ofFields a b) := by
  have hNot := c.holdsOf_incomparable.symm
  cases a with
  | text s =>
    cases b with
    | text t => exact onTexts_eq c s t
    | _ => exact hNot
  | number x =>
    cases b with
    | number y => exact onNumbers_eq c x y
    | bool b => exact onNumbers_eq c x _
    | _ => exact hNot
  | bool a =>
    cases b with
    | number y => exact onNumbers_eq c _ y
    | bool b => exact onNumbers_eq c _ _
    | _ => exact hNot
  | _ => cases b <;> exact hNot

end Comparison

namespace Standing

theorem ofTexts_self (s : String) : ofTexts s s = same := by
  have hNot : ¬s < s := String.lt_irrefl s
  rw [ofTexts, if_neg hNot, if_neg hNot]

theorem ofFields_of_numbers {a b : Field} {x y : Binary64} (ha : a.asNumber = some x)
    (hb : b.asNumber = some y) : ofFields a b = ofNumbers x y := by
  unfold ofFields
  split
  · cases ha
  · rw [ha, hb]

theorem ofTexts_ne (s t : String) :
    ofTexts s t ≠ incomparable ∧ ofTexts s t ≠ unordered := by
  unfold ofTexts
  split
  · decide
  · split <;> decide

theorem ofNumbers_ne_incomparable (x y : Binary64) : ofNumbers x y ≠ incomparable := by
  unfold ofNumbers
  split
  · decide
  · split
    · decide
    · split <;> decide

theorem ofNumbers_eq_unordered_iff {x y : Binary64} :
    ofNumbers x y = unordered ↔ x.isNaN = true ∨ y.isNaN = true := by
  unfold ofNumbers
  split
  · next h => simpa using h
  · next h =>
    rw [Bool.or_eq_true] at h
    refine iff_of_false ?_ h
    split
    · decide
    · split <;> decide

theorem ofFields_eq_incomparable_iff {a b : Field} :
    ofFields a b = incomparable ↔ ¬a.Comparable b := by
  unfold ofFields
  split
  · next s t =>
    exact iff_of_false (ofTexts_ne s t).1 fun h => h (.inl ⟨⟨s, rfl⟩, ⟨t, rfl⟩⟩)
  · next hTexts =>
    split
    · next x y hx hy =>
      have hBoth : a.Comparable b :=
        .inr ⟨Field.isNumeric_iff.mpr ⟨x, hx⟩, Field.isNumeric_iff.mpr ⟨y, hy⟩⟩
      exact iff_of_false (ofNumbers_ne_incomparable x y) fun h => h hBoth
    · next hNumbers =>
      refine iff_of_true rfl ?_
      rintro (⟨⟨s, rfl⟩, ⟨t, rfl⟩⟩ | ⟨ha, hb⟩)
      · exact hTexts s t rfl rfl
      · obtain ⟨x, hx⟩ := Field.isNumeric_iff.mp ha
        obtain ⟨y, hy⟩ := Field.isNumeric_iff.mp hb
        exact hNumbers x y hx hy

theorem comparable_of_ne {a b : Field} (h : ofFields a b ≠ incomparable) : a.Comparable b := by
  by_contra hNot
  exact h (ofFields_eq_incomparable_iff.mpr hNot)

theorem comparable_of_eq_same {a b : Field} (h : ofFields a b = same) : a.Comparable b :=
  comparable_of_ne (by rw [h]; decide)

theorem ofFields_eq_unordered_iff {a b : Field} :
    ofFields a b = unordered ↔ a.Comparable b ∧ (a.IsNaN ∨ b.IsNaN) := by
  by_cases hBoth : a.IsNumeric ∧ b.IsNumeric
  · obtain ⟨x, hx⟩ := Field.isNumeric_iff.mp hBoth.1
    obtain ⟨y, hy⟩ := Field.isNumeric_iff.mp hBoth.2
    rw [ofFields_of_numbers hx hy, ofNumbers_eq_unordered_iff, Field.isNaN_iff_of_asNumber hx,
      Field.isNaN_iff_of_asNumber hy]
    exact (and_iff_right (.inr hBoth)).symm
  · refine iff_of_false (fun h => ?_) ?_
    · have hComparable : a.Comparable b := comparable_of_ne (by rw [h]; decide)
      rcases hComparable with ⟨⟨s, rfl⟩, ⟨t, rfl⟩⟩ | hNumeric
      · exact (ofTexts_ne s t).2 h
      · exact hBoth hNumeric
    · rintro ⟨⟨⟨s, rfl⟩, ⟨t, rfl⟩⟩ | hNumeric, hNaN⟩
      · rcases hNaN with ⟨x, hx, -⟩ | ⟨x, hx, -⟩ <;> cases hx
      · exact hBoth hNumeric

theorem ofTexts_eq_same_iff {s t : String} : ofTexts s t = same ↔ s = t := by
  constructor
  · intro h
    unfold ofTexts at h
    split at h
    · cases h
    · next hNotBelow =>
      split at h
      · cases h
      · next hNotAbove =>
        exact String.le_antisymm (String.not_lt.mp hNotAbove) (String.not_lt.mp hNotBelow)
  · rintro rfl
    exact ofTexts_self s

theorem ofNumbers_eq_same_iff {x y : Binary64} :
    ofNumbers x y = same ↔ x.isNaN = false ∧ y.isNaN = false ∧ x.rank = y.rank := by
  unfold ofNumbers
  split
  · next hNaN =>
    refine iff_of_false (by decide) ?_
    rintro ⟨hx, hy, -⟩
    simp [hx, hy] at hNaN
  · next hNumbers =>
    simp only [Bool.or_eq_true, not_or, Bool.not_eq_true] at hNumbers
    simp only [hNumbers, true_and]
    split
    · exact iff_of_false (by decide) (by omega)
    · split
      · exact iff_of_false (by decide) (by omega)
      · exact iff_of_true rfl (by omega)

/-- Fields are the same if they are one text, or numbers of one rank. -/
theorem ofFields_eq_same_iff {a b : Field} :
    ofFields a b = same ↔ (∃ s, a = .text s ∧ b = .text s) ∨
      ∃ x y, a.asNumber = some x ∧ b.asNumber = some y ∧ x.isNaN = false ∧ y.isNaN = false ∧
        x.rank = y.rank := by
  constructor
  · intro h
    rcases comparable_of_eq_same h with ⟨⟨s, rfl⟩, ⟨t, rfl⟩⟩ | ⟨ha, hb⟩
    · obtain rfl : s = t := ofTexts_eq_same_iff.mp h
      exact .inl ⟨s, rfl, rfl⟩
    · obtain ⟨x, hx⟩ := Field.isNumeric_iff.mp ha
      obtain ⟨y, hy⟩ := Field.isNumeric_iff.mp hb
      rw [ofFields_of_numbers hx hy] at h
      exact .inr ⟨x, y, hx, hy, ofNumbers_eq_same_iff.mp h⟩
  · rintro (⟨s, rfl, rfl⟩ | ⟨x, y, hx, hy, h⟩)
    · exact ofTexts_self s
    · rw [ofFields_of_numbers hx hy]
      exact ofNumbers_eq_same_iff.mpr h

/-- A field stands to itself as the same, if it is something that can be compared. -/
theorem ofFields_self {f : Field} (h : f.IsScalar) (hNaN : ¬f.IsNaN) : ofFields f f = same := by
  rw [ofFields_eq_same_iff]
  rcases h with ⟨s, rfl⟩ | h
  · exact .inl ⟨s, rfl, rfl⟩
  · obtain ⟨x, hx⟩ := Field.isNumeric_iff.mp h
    rw [Field.isNaN_iff_of_asNumber hx, Bool.not_eq_true] at hNaN
    exact .inr ⟨x, x, hx, hx, hNaN, hNaN, rfl⟩

end Standing

end RuleVerdict
