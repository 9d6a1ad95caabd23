import RuleVerdict.Proofs.Atom.Operators
import RuleVerdict.Proofs.Binary64.Integers
import RuleVerdict.Proofs.Logic.Spacing
import RuleVerdict.Proofs.Text.Items

/-!
# Lists of one item

A literal without commas is a list of one item, itself. A field that is equal to a text or to a
number is also an item of it, where it is taken for a list: a text is compared as it is, and a
number is found again from its text, so that its distance to the field is none. A truth value is no
item of itself: its text is a word, and a truth value in a record is looked for by its number.

* `listItems_eq_singleton`: when a literal is its own only item.
* `distance_lt_tolerance`: equal numbers have no distance.
* `isItem_iff_of_equal`: what is equal to a literal is an item of it, unless that is a truth value.
-/

namespace RuleVerdict

open Text

namespace Binary64

/-! ## Distances -/

theorem magnitude_eq_of_rank_eq {x y : Binary64} (h : x.rank = y.rank) :
    x.magnitude = y.magnitude := by
  unfold rank at h
  split at h <;> split at h <;> omega

/-- Numbers of one rank are the same multiple of the unit, zeros of either sign included. -/
theorem signedUnits_eq_of_rank_eq {x y : Binary64} (h : x.rank = y.rank) :
    x.signedUnits = y.signedUnits := by
  have hNotLess := (rank_lt_iff (x := x) (y := y)).not
  have hNotMore := (rank_lt_iff (x := y) (y := x)).not
  omega

/-- Equal numbers have no distance. -/
theorem distance_lt_tolerance {x y : Binary64} (hx : x.isFinite = true) (h : x.rank = y.rank) :
    (x.distance y).lt Matcher.tolerance = true := by
  have hMagnitude := magnitude_eq_of_rank_eq h
  have hLess := magnitude_lt_of_isFinite hx
  have hNumbers : x.isNaN = false ∧ y.isNaN = false :=
    ⟨decide_eq_false (by omega), decide_eq_false (by omega)⟩
  have hBounded : x.isInfinite = false ∧ y.isInfinite = false :=
    ⟨decide_eq_false (by omega), decide_eq_false (by omega)⟩
  have hNone : x.distance y = ofMagnitude false 0 := by
    simp only [distance, hNumbers, hBounded, Bool.or_self, Bool.and_self, Bool.false_and,
      Bool.false_eq_true, if_false, signedUnits_eq_of_rank_eq h, Int.sub_self, Int.natAbs_zero,
      ofRatio, roundRatio_zero]
  rw [hNone]
  decide +kernel

end Binary64

namespace Value

/-- A literal that is an item of its own when it is taken for a list: a text without commas and
without blanks at its ends, any number but infinity, or a truth value. -/
def StandsAlone : Value → Prop
  | .text s => ',' ∉ s.toList ∧ (∀ c, s.toList.head? = some c → isBlank c = false) ∧
      ∀ c, s.toList.getLast? = some c → isBlank c = false
  | .float x => x.isInfinite = false
  | _ => True

/-- A truth value. -/
def IsTruth (v : Value) : Prop := ∃ b, v = .bool b

theorem not_isTruth_of_bool? {v : Value} (h : v.bool? = none) : ¬v.IsTruth := by
  rintro ⟨b, rfl⟩
  cases h

end Value

namespace Matcher

open Binary64

theorem listItems_eq_singleton {s : String} (hComma : ',' ∉ s.toList)
    (hTrim : trim s.toList = s.toList) : listItems s = [s] := by
  rw [listItems, pieces_of_not_mem hComma, List.map_singleton, hTrim, String.ofList_toList]

/-- The text of a finite number has neither comma nor blank in it. -/
theorem listItems_render {x : Binary64} (hx : x.isFinite = true) :
    listItems x.render = [x.render] := by
  have hChars : ∀ c ∈ x.render.toList, c ≠ ',' ∧ isBlank c = false := by
    intro c hc
    rw [render, String.toList_ofList] at hc
    rcases isNumberChar_of_mem_renderChars hx hc with hDigit | rfl | rfl
    · refine ⟨?_, Logic.isBlank_eq_false_of_kind (Logic.of?_of_isDigit hDigit)⟩
      rintro rfl
      exact absurd hDigit (by decide)
    · decide
    · decide
  apply listItems_eq_singleton
  · exact fun hComma => (hChars _ hComma).1 rfl
  · apply trim_eq_self
    exact ⟨fun c hc => (hChars c (List.mem_of_head? hc)).2,
      fun c hc => (hChars c (List.mem_of_getLast? hc)).2⟩

theorem isItem_of_asNumber {f : Field} {x : Binary64} (h : f.asNumber = some x)
    (items : List String) :
    isItem items f = items.any fun item =>
      match Binary64.read? item.toList with
      | none => false
      | some n => (n.distance x).lt tolerance := by
  cases f with
  | number y =>
    obtain rfl := Option.some.inj h
    rfl
  | bool b =>
    obtain rfl := Option.some.inj h
    rfl
  | _ => cases h

/-- A number is an item of the list that is its text. -/
theorem isItem_render {f : Field} {x y : Binary64} (hf : f.asNumber = some x)
    (hy : y.isFinite = true) (h : x.rank = y.rank) : isItem (listItems y.render) f = true := by
  have hText : y.render.toList = y.renderChars := String.toList_ofList
  rw [listItems_render hy, isItem_of_asNumber hf, List.any_cons, hText, read?_renderChars hy]
  simp [distance_lt_tolerance hy h.symm]

/-- The word of a truth value is no number. -/
theorem isItem_truth {f : Field} {x : Binary64} (hf : f.asNumber = some x) (b : Bool) :
    isItem (listItems (truth b)) f = false := by
  have hItems : listItems (truth b) = [truth b] := by cases b <;> decide +kernel
  have hWord : Binary64.read? (truth b).toList = none := by cases b <;> decide +kernel
  rw [hItems, isItem_of_asNumber hf, List.any_cons, hWord]
  rfl

/-- What is equal to a literal is an item of it, unless the literal is a truth value. -/
theorem isItem_iff_of_equal {v : Value} {f : Field} (hAlone : v.StandsAlone)
    (hSame : Standing.ofFields f v.field = .same) :
    isItem (literalItems (some v)) f = true ↔ ¬v.IsTruth := by
  rcases Standing.ofFields_eq_same_iff.mp hSame with
    ⟨s, rfl, hText⟩ | ⟨x, y, hx, hy, -, hNumber, hRank⟩
  · cases v with
    | text t =>
      obtain rfl : t = s := Field.text.inj hText
      obtain ⟨hComma, hBare⟩ := hAlone
      have hItems : literalItems (some (.text t)) = [t] :=
        listItems_eq_singleton hComma (trim_eq_self hBare)
      rw [hItems]
      exact iff_of_true (by simp [isItem]) (Value.not_isTruth_of_bool? rfl)
    | _ => cases hText
  · cases v with
    | int i =>
      obtain rfl : Binary64.ofInt i.toInt = y := Option.some.inj hy
      exact iff_of_true (isItem_render hx (isFinite_ofInt i) hRank)
        (Value.not_isTruth_of_bool? rfl)
    | float z =>
      obtain rfl : z = y := Option.some.inj hy
      have hFinite : z.isFinite = true := by
        simp only [Value.StandsAlone, isInfinite, isNaN, isFinite, decide_eq_false_iff_not,
          decide_eq_true_eq] at hAlone hNumber ⊢
        omega
      exact iff_of_true (isItem_render hx hFinite hRank) (Value.not_isTruth_of_bool? rfl)
    | bool b =>
      have hNone : isItem (literalItems (some (.bool b))) f = false := isItem_truth hx b
      exact iff_of_false (by simp [hNone]) fun h => h ⟨b, rfl⟩
    | text t => cases hy

end Matcher

namespace Atom

/-- What is equal to a literal that stands alone is in the list that the literal is taken for,
except that nothing is in the list of a truth value. -/
theorem isIn_iff_of_equal {R : LiteralReader} (a : Atom R) {v : Value} {f : Field}
    (hLiteral : a.literal = some v) (hAlone : v.StandsAlone)
    (hEqual : (a.under (.compare .eq)).fits f = true) :
    ((a.under .isIn).fits f = true ↔ ¬v.IsTruth) ∧
      ((a.under .notIn).fits f = true ↔ v.IsTruth) := by
  simp only [fits_under, hLiteral, Matcher.fits_compare] at hEqual ⊢
  have hSame : Standing.ofFields f v.field = .same := Comparison.holdsOf_eq_iff.mp hEqual
  have hScalar : f.IsScalar := (Standing.comparable_of_eq_same hSame).isScalar
  have hItem := Matcher.isItem_iff_of_equal hAlone hSame
  constructor
  · rw [Matcher.fits_isIn_iff, hItem]
    exact and_iff_right hScalar
  · rw [Matcher.fits_notIn_iff, ← Bool.not_eq_true, hItem, not_not]
    exact and_iff_right hScalar

/-- Zero is in the list of the negative zero. -/
theorem isIn_iff_of_equal_negative_zero :
    let a : Atom := ⟨1, "f", .compare .eq, some (.float (.ofMagnitude true 0)), "", _, rfl⟩
    Value.StandsAlone (.float (.ofMagnitude true 0)) ∧
      (a.under (.compare .eq)).fits (.number .zero) = true ∧
      (a.under .isIn).fits (.number .zero) = true ∧
      (a.under .notIn).fits (.number .zero) = false := by
  intro a
  have hAlone : Value.StandsAlone (.float (.ofMagnitude true 0)) := by
    unfold Value.StandsAlone
    decide +kernel
  have hEqual : (a.under (.compare .eq)).fits (.number .zero) = true := by decide +kernel
  obtain ⟨hIn, hNotIn⟩ := isIn_iff_of_equal a rfl hAlone hEqual
  have hNumber := Value.not_isTruth_of_bool? (v := .float (.ofMagnitude true 0)) rfl
  exact ⟨hAlone, hEqual, hIn.mpr hNumber, Bool.eq_false_iff.mpr (hNotIn.not.mpr hNumber)⟩

/-- The field true is equal to the literal true and yet not in its list: the word is compared with
the texts of numbers. -/
theorem not_isIn_of_equal_truth :
    ¬∀ (a : Atom) (v : Value) (f : Field), a.literal = some v → v.StandsAlone →
      (a.under (.compare .eq)).fits f = true →
        (a.under .isIn).fits f = true ∧ (a.under .notIn).fits f = false := by
  intro h
  have hIn := (h ⟨1, "f", .isIn, some (.bool true), "", _, rfl⟩ (.bool true) (.bool true) rfl
    trivial (by decide +kernel)).1
  exact absurd hIn (by decide +kernel)

end Atom

end RuleVerdict
