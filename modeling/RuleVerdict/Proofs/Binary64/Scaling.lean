import RuleVerdict.Binary64.Scaling
import RuleVerdict.Proofs.Binary64.Integers

/-!
# When moving the point is exact

Moving the point of a binary number rounds twice, once for the power of ten and once for the result.
A power of up to 22 tens is itself a binary number, and so is an integer of 53 bits; between the two
only the result is rounded, and the result is the nearest number. Whatever is scaled, it does not
become more than infinite.

* `magnitude_scale_le`: the result of scaling is a number.
* `scale_eq_ofDecimal`: the decimal numbers that are scaled exactly.
-/

namespace RuleVerdict.Binary64

open Decimal

variable {x y : Binary64}

theorem magnitude_ofRatio (num den : Nat) :
    (ofRatio false num den).magnitude = roundRatio num den :=
  magnitude_ofMagnitude false (lt_signWeight_of_le (Nat.min_le_left ..))

theorem magnitude_ofRatio_le (num den : Nat) :
    (ofRatio false num den).magnitude ≤ infiniteMagnitude := by
  rw [magnitude_ofRatio]
  exact Nat.min_le_left ..

/-- The result of scaling is a number. -/
theorem magnitude_scale_le (hx : x.magnitude ≤ infiniteMagnitude) (place : Int) :
    (x.scale place).magnitude ≤ infiniteMagnitude := by
  cases place with
  | ofNat k =>
    rw [scale]
    split
    · rw [product]
      exact magnitude_ofRatio_le ..
    split
    · exact hx
    · have hInfinite : (infinity false).magnitude = infiniteMagnitude := by decide
      exact Nat.le_of_eq hInfinite
  | negSucc k =>
    rw [scale, quotient]
    exact magnitude_ofRatio_le ..

/-! ## Whole numbers of units -/

/-- An integer of 53 bits is a binary number. -/
theorem units_ofRatio_one {n : Nat} (h : n ≤ bitWeight 53) :
    (ofRatio false n 1).units = n * unitsPerOne := by
  have hBits : bitWeight 53 < bitWeight 64 := by decide
  rw [units, magnitude_ofRatio, unitsOfMagnitude_roundRatio (by omega), nearest_of_le h]

/-- Ten to the power of 22 has 53 bits before its zeros, and it is the last power that fits. -/
theorem units_powerOfTen {k : Nat} (h : k ≤ 22) :
    (powerOfTen k).units = placeWeight k * unitsPerOne := by
  have hAll : ∀ k < 23, (powerOfTen k).units = placeWeight k * unitsPerOne := by decide +kernel
  exact hAll k (by omega)

theorem product_of_units {m n : Nat} (hx : x.units = m * unitsPerOne)
    (hy : y.units = n * unitsPerOne) : x.product y = ofRatio false (m * n) 1 := by
  have hUnits : 0 < unitsPerOne * unitsPerOne := Nat.mul_pos (bitWeight_pos _) (bitWeight_pos _)
  have hProduct : x.units * y.units = m * n * (unitsPerOne * unitsPerOne) := by
    rw [hx, hy, Nat.mul_mul_mul_comm]
  have hCancel := roundRatio_mul_mul hUnits (m * n) 1
  rw [Nat.one_mul] at hCancel
  rw [product, ofRatio, hProduct, hCancel, ofRatio]

theorem quotient_of_units {m n : Nat} (hx : x.units = m * unitsPerOne)
    (hy : y.units = n * unitsPerOne) : x.quotient y = ofRatio false m n := by
  have hUnits : 0 < unitsPerOne := bitWeight_pos 1074
  rw [quotient, hx, hy, ofRatio, roundRatio_mul_mul hUnits, ofRatio]

theorem ofRatio_zero (neg : Bool) (den : Nat) : ofRatio neg 0 den = ofMagnitude neg 0 := by
  rw [ofRatio, roundRatio_zero]

/-- A decimal number of few places is far from the limits of binary numbers. -/
theorem ofDecimal_of_short {n : Nat} (h : n ≤ bitWeight 53) {place : Int} (hLow : -22 ≤ place)
    (hHigh : place ≤ 22) :
    (∀ k, place = .ofNat k → ofDecimal ⟨false, n, place⟩ = ofRatio false (n * placeWeight k) 1) ∧
      ∀ k, place = .negSucc k →
        ofDecimal ⟨false, n, place⟩ = ofRatio false n (placeWeight (k + 1)) := by
  by_cases hn : n = 0
  · rw [hn, ofDecimal_zero]
    exact ⟨fun k _ => by rw [Nat.zero_mul, ofRatio_zero], fun k _ => (ofRatio_zero ..).symm⟩
  · have hPlaces : places n ≤ 16 := by
      have hBits : bitWeight 53 < placeWeight 16 := by decide
      exact places_le hn (by omega)
    unfold ofDecimal
    dsimp only
    rw [if_neg hn, if_neg (by omega), if_neg (by omega)]
    exact ⟨fun k hk => by rw [hk], fun k hk => by rw [hk]⟩

/-- Moving the point of an integer of 53 bits by up to 22 places gives the number nearest to the
exact result. -/
theorem scale_eq_ofDecimal {n : Nat} (h : n ≤ bitWeight 53) {place : Int} (hLow : -22 ≤ place)
    (hHigh : place ≤ 22) : (ofRatio false n 1).scale place = ofDecimal ⟨false, n, place⟩ := by
  obtain ⟨hRight, hLeft⟩ := ofDecimal_of_short h hLow hHigh
  have hInteger := units_ofRatio_one h
  cases place with
  | ofNat k =>
    have hk : k ≤ 22 := Int.ofNat_le.mp hHigh
    have hPower : k ≤ greatestPower := Nat.le_trans hk (by decide)
    rw [hRight k rfl, scale, if_pos hPower]
    exact product_of_units hInteger (units_powerOfTen hk)
  | negSucc k =>
    have hk : k < 22 := by omega
    have hSteps : k / greatestPower = 0 := Nat.div_eq_of_lt (Nat.lt_trans hk (by decide))
    have hRest : k % greatestPower = k := Nat.mod_eq_of_lt (Nat.lt_trans hk (by decide))
    rw [hLeft k rfl, scale, hSteps, hRest, lower]
    exact quotient_of_units hInteger (units_powerOfTen hk)

end RuleVerdict.Binary64
