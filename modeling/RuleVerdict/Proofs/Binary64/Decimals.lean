import RuleVerdict.Binary64.Shortest

/-!
# Decimal numbers that read back

A binary number is found again from the decimal number that stands for it. Rounding looks at the
value of a ratio only, so a decimal number may be written with any exponent as long as its digits
make up for that. And a number of units is not changed by rounding, which settles the case in
which no grid of up to 17 digits has an answer.

* `ofDecimal_mul_placeWeight`: zeros at the end make up for the exponent.
* `roundRatio_unitsOfMagnitude`: the units of a finite number round to that number.
* `ofDecimal_shortest`: the shortest decimal number reads back.
-/

namespace RuleVerdict.Binary64

open Decimal

/-! ## Weights -/

theorem bitWeight_pos (n : Nat) : 0 < bitWeight n := Nat.pow_pos (by decide)

theorem bitWeight_add (m n : Nat) : bitWeight (m + n) = bitWeight m * bitWeight n :=
  Nat.pow_add 2 m n

theorem bitWeight_mono {m n : Nat} (h : m ≤ n) : bitWeight m ≤ bitWeight n :=
  Nat.pow_le_pow_right (by decide) h

theorem placeWeight_pos (n : Nat) : 0 < placeWeight n := Nat.pow_pos (by decide)

theorem placeWeight_succ (n : Nat) : placeWeight (n + 1) = placeWeight n * 10 :=
  Nat.pow_succ 10 n

theorem placeWeight_add (m n : Nat) : placeWeight (m + n) = placeWeight m * placeWeight n :=
  Nat.pow_add 10 m n

theorem placeWeight_mono {m n : Nat} (h : m ≤ n) : placeWeight m ≤ placeWeight n :=
  Nat.pow_le_pow_right (by decide) h

/-- Each ten is a two and a five. -/
theorem placeWeight_eq (n : Nat) : placeWeight n = bitWeight n * Nat.pow 5 n :=
  Nat.mul_pow 2 5 n

/-! ## The number of places -/

theorem places_mul_ten {n : Nat} (h : n ≠ 0) : places (n * 10) = places n + 1 := by
  rw [places, if_neg (by omega), Nat.mul_div_cancel n (by decide)]

/-- A number lies below the weight of the place behind its first one, but not below the weight of
its first one. -/
theorem placeWeight_le_and_lt {n : Nat} (h : n ≠ 0) :
    placeWeight (places n - 1) ≤ n ∧ n < placeWeight (places n) := by
  induction n using places.induct with
  | case1 n hn =>
    have hZero : placeWeight 0 = 1 := rfl
    have hOne : placeWeight 1 = 10 := rfl
    rw [places, if_pos hn, Nat.sub_self, hZero, hOne]
    omega
  | case2 n hn ih =>
    obtain ⟨hLow, hHigh⟩ := ih (by omega)
    have hPlaces : 1 ≤ places (n / 10) := by
      rw [places]
      split <;> omega
    rw [places, if_neg hn, Nat.add_sub_cancel, placeWeight_succ]
    have hSplit : placeWeight (places (n / 10)) = placeWeight (places (n / 10) - 1) * 10 := by
      rw [← placeWeight_succ, Nat.sub_add_cancel hPlaces]
    omega

theorem places_le {n k : Nat} (h : n ≠ 0) (hk : n < placeWeight k) : places n ≤ k := by
  by_cases hle : places n ≤ k
  · exact hle
  · have hLow := (placeWeight_le_and_lt h).1
    have hMono : placeWeight k ≤ placeWeight (places n - 1) := placeWeight_mono (by omega)
    omega

theorem lt_places {n k : Nat} (hk : placeWeight k ≤ n) : k < places n := by
  have hPos := placeWeight_pos k
  by_cases hlt : k < places n
  · exact hlt
  · have hHigh := (placeWeight_le_and_lt (n := n) (by omega)).2
    have hMono : placeWeight (places n) ≤ placeWeight k := placeWeight_mono (by omega)
    omega

/-! ## Rounding depends on the value -/

theorem roundDiv_mul_mul {c : Nat} (hc : 0 < c) (n d : Nat) :
    roundDiv (n * c) (d * c) = roundDiv n d := by
  have hTwice : 2 * (n % d * c) = 2 * (n % d) * c := (Nat.mul_assoc 2 (n % d) c).symm
  have hLess : d * c < 2 * (n % d) * c ↔ d < 2 * (n % d) := Nat.mul_lt_mul_right hc
  have hSame : d * c = 2 * (n % d) * c ↔ d = 2 * (n % d) := Nat.mul_left_inj (by omega)
  rw [roundDiv, roundDiv, Nat.mul_div_mul_right n d hc, Nat.mul_mod_mul_right, hTwice]
  simp only [hLess, hSame]

theorem roundRatio_mul_mul {c : Nat} (hc : 0 < c) (num den : Nat) :
    roundRatio (num * c) (den * c) = roundRatio num den := by
  have hNum : num * c * unitsPerOne = num * unitsPerOne * c := Nat.mul_right_comm ..
  have hDen : ∀ e, den * c * bitWeight e = den * bitWeight e * c := fun e =>
    Nat.mul_right_comm ..
  simp only [roundRatio, hNum, hDen, Nat.mul_div_mul_right _ _ hc, roundDiv_mul_mul hc]

/-- A digit more at the end makes up for an exponent less. -/
theorem ofDecimal_mul_ten (neg : Bool) (n : Nat) (e : Int) :
    ofDecimal ⟨neg, n * 10, e⟩ = ofDecimal ⟨neg, n, e + 1⟩ := by
  by_cases hn : n = 0
  · rw [hn, Nat.zero_mul, ofDecimal_zero, ofDecimal_zero]
  have hPlaces : (places (n * 10) : Int) + e = places n + (e + 1) := by
    rw [places_mul_ten hn]
    omega
  have hTen : ofRatio neg (n * 10) 10 = ofRatio neg n 1 := by
    have hRatio := roundRatio_mul_mul (c := 10) (by decide) n 1
    exact congrArg (ofMagnitude neg) hRatio
  have hn' : n * 10 ≠ 0 := by omega
  simp only [ofDecimal, hPlaces, if_neg hn, if_neg hn']
  split
  · rfl
  split
  · rfl
  cases e with
  | ofNat k =>
    have hWeight : n * 10 * placeWeight k = n * placeWeight (k + 1) := by
      rw [placeWeight_succ, Nat.mul_assoc, Nat.mul_comm 10]
    exact congrArg (ofRatio neg · 1) hWeight
  | negSucc j =>
    cases j with
    | zero =>
      have hWeight : n * placeWeight 0 = n := Nat.mul_one n
      exact hTen.trans (congrArg (ofRatio neg · 1) hWeight.symm)
    | succ k =>
      have hWeight : placeWeight (k + 1 + 1) = placeWeight (k + 1) * 10 := placeWeight_succ _
      have hRatio := roundRatio_mul_mul (c := 10) (by decide) n (placeWeight (k + 1))
      rw [← hWeight] at hRatio
      exact congrArg (ofMagnitude neg) hRatio

/-- Zeros at the end of the digits make up for the exponent. -/
theorem ofDecimal_mul_placeWeight (neg : Bool) (n k : Nat) (e : Int) :
    ofDecimal ⟨neg, n * placeWeight k, e⟩ = ofDecimal ⟨neg, n, e + k⟩ := by
  induction k generalizing e with
  | zero =>
    have hWeight : n * placeWeight 0 = n := Nat.mul_one n
    rw [hWeight, Int.natCast_zero, Int.add_zero]
  | succ k ih =>
    have hExponent : e + 1 + (k : Int) = e + (k + 1 : Nat) := by omega
    rw [placeWeight_succ, ← Nat.mul_assoc, ofDecimal_mul_ten, ih, hExponent]

theorem ofDecimal_strip (neg : Bool) (n : Nat) (e : Int) :
    ofDecimal ⟨neg, (strip n e).1, (strip n e).2⟩ = ofDecimal ⟨neg, n, e⟩ := by
  induction n, e using strip.induct with
  | case1 n e h ih =>
    have hTen : n / 10 * 10 = n := by omega
    rw [strip, dif_pos h, ih, ← ofDecimal_mul_ten, hTen]
  | case2 n e h => rw [strip, dif_neg h]

/-! ## Signs and magnitudes -/

theorem magnitude_ofMagnitude (neg : Bool) {m : Nat} (h : m < signWeight) :
    (ofMagnitude neg m).magnitude = m := by
  have hSign : signWeight = 9223372036854775808 := rfl
  rw [hSign] at h
  simp only [magnitude, ofMagnitude, UInt64.toNat_ofNat', hSign]
  split <;> omega

theorem ofMagnitude_magnitude (x : Binary64) : ofMagnitude x.negative x.magnitude = x := by
  have hSign : signWeight = 9223372036854775808 := rfl
  have hBits := x.bits.toNat_lt
  have hNat : (if x.negative then signWeight + x.magnitude else x.magnitude) = x.bits.toNat := by
    simp only [negative, magnitude, decide_eq_true_eq, hSign]
    split <;> omega
  rw [ofMagnitude, hNat, UInt64.ofNat_toNat]

theorem lt_signWeight_of_le {m : Nat} (h : m ≤ infiniteMagnitude) : m < signWeight := by
  have hSign : signWeight = 9223372036854775808 := rfl
  have hInfinite : infiniteMagnitude = 9218868437227405312 := rfl
  omega

theorem magnitude_lt_of_isFinite {x : Binary64} (h : x.isFinite = true) :
    x.magnitude < infiniteMagnitude := of_decide_eq_true h

/-- What is neither infinite nor beyond is finite. -/
theorem isFinite_of_not_isInfinite {x : Binary64} (h : x.magnitude ≤ infiniteMagnitude)
    (hNot : ¬x.isInfinite = true) : x.isFinite = true :=
  decide_eq_true (Nat.lt_of_le_of_ne h (mt decide_eq_true hNot))

/-- The sign of a decimal number does not matter for the magnitude that it is rounded to. -/
theorem exists_ofDecimal_eq (n : Nat) (e : Int) :
    ∃ m, m ≤ infiniteMagnitude ∧ ∀ neg, ofDecimal ⟨neg, n, e⟩ = ofMagnitude neg m := by
  simp only [ofDecimal]
  split
  · exact ⟨0, Nat.zero_le _, fun _ => rfl⟩
  split
  · exact ⟨infiniteMagnitude, Nat.le_refl _, fun _ => rfl⟩
  split
  · exact ⟨0, Nat.zero_le _, fun _ => rfl⟩
  have hRound : ∀ num den, roundRatio num den ≤ infiniteMagnitude := fun _ _ => Nat.min_le_left ..
  cases e with
  | ofNat k => exact ⟨_, hRound _ _, fun _ => rfl⟩
  | negSucc k => exact ⟨_, hRound _ _, fun _ => rfl⟩

/-- What reads as a number without its sign reads as that number with its sign. -/
theorem ofDecimal_of_abs {x : Binary64} {n : Nat} {e : Int} (h : ofDecimal ⟨false, n, e⟩ = x.abs)
    (hx : x.isFinite = true) : ofDecimal ⟨x.negative, n, e⟩ = x := by
  obtain ⟨m, hm, hall⟩ := exists_ofDecimal_eq n e
  have hMagnitude : m = x.magnitude := by
    have hFinite := magnitude_lt_of_isFinite hx
    rw [hall, abs] at h
    have hBoth := congrArg magnitude h
    rwa [magnitude_ofMagnitude false (lt_signWeight_of_le hm),
      magnitude_ofMagnitude false (lt_signWeight_of_le (Nat.le_of_lt hFinite))] at hBoth
  rw [hall, hMagnitude, ofMagnitude_magnitude]

/-! ## Exact numbers -/

/-- The units of a number in the binade where steps have doubled `k` times. -/
theorem unitsOfMagnitude_of_binade {k f : Nat} (hf : f < exponentWeight) :
    unitsOfMagnitude ((k + 1) * exponentWeight + f) = (exponentWeight + f) * bitWeight k := by
  have hPos : 0 < exponentWeight := bitWeight_pos 52
  have hDiv : ((k + 1) * exponentWeight + f) / exponentWeight = k + 1 := by
    rw [Nat.mul_comm, Nat.mul_add_div hPos, Nat.div_eq_of_lt hf, Nat.add_zero]
  have hMod : ((k + 1) * exponentWeight + f) % exponentWeight = f := by
    rw [Nat.mul_comm, Nat.mul_add_mod, Nat.mod_eq_of_lt hf]
  rw [unitsOfMagnitude, hDiv, hMod, if_neg (Nat.add_one_ne_zero k), Nat.add_sub_cancel]

/-- A magnitude that is not below the second binade has a binade and a fraction. -/
theorem exists_binade_eq {m : Nat} (h : exponentWeight ≤ m) :
    ∃ k f, f < exponentWeight ∧ m = (k + 1) * exponentWeight + f := by
  have hPos : 0 < exponentWeight := bitWeight_pos 52
  have hDiv : 1 ≤ m / exponentWeight := (Nat.le_div_iff_mul_le hPos).mpr (by omega)
  refine ⟨m / exponentWeight - 1, m % exponentWeight, Nat.mod_lt _ hPos, ?_⟩
  rw [Nat.sub_add_cancel hDiv, Nat.mul_comm]
  exact (Nat.div_add_mod m exponentWeight).symm

theorem binade_le {n k : Nat} (h : n < bitWeight (k + 53)) : binade n ≤ k := by
  by_cases hn : n = 0
  · rw [hn, binade, Nat.log2_zero]
    omega
  · have hLog : n.log2 < k + 53 := (Nat.log2_lt hn).mpr h
    rw [binade]
    omega

theorem binade_of_lt {n : Nat} (h : n < bitWeight 53) : binade n = 0 := by
  have hNone : binade n ≤ 0 := binade_le h
  omega

theorem binade_mul_bitWeight {k f : Nat} (hf : f < exponentWeight) :
    binade ((exponentWeight + f) * bitWeight k) = k := by
  have hPos : 0 < exponentWeight := bitWeight_pos 52
  have hWeight := bitWeight_pos k
  have hNe : (exponentWeight + f) * bitWeight k ≠ 0 := Nat.mul_ne_zero (by omega) (by omega)
  have hLow : bitWeight (52 + k) ≤ (exponentWeight + f) * bitWeight k := by
    rw [bitWeight_add]
    exact Nat.mul_le_mul_right _ (Nat.le_add_right ..)
  have hHigh : (exponentWeight + f) * bitWeight k < bitWeight (52 + k + 1) := by
    have hNext : bitWeight (52 + k + 1) = (exponentWeight + exponentWeight) * bitWeight k := by
      have hTwo : bitWeight 1 = 2 := rfl
      have hBase : bitWeight 52 = exponentWeight := rfl
      rw [Nat.add_right_comm, bitWeight_add, bitWeight_add, hTwo, hBase, Nat.mul_two]
    rw [hNext]
    exact Nat.mul_lt_mul_of_pos_right (by omega) hWeight
  have hLog : ((exponentWeight + f) * bitWeight k).log2 = 52 + k :=
    (Nat.log2_eq_iff hNe).mpr ⟨hLow, hHigh⟩
  rw [binade, hLog, Nat.add_sub_cancel_left]

/-- The units of a finite number round to that number. -/
theorem roundRatio_unitsOfMagnitude {m : Nat} (h : m ≤ infiniteMagnitude) :
    roundRatio (unitsOfMagnitude m) unitsPerOne = m := by
  have hUnits : 0 < unitsPerOne := bitWeight_pos 1074
  have hCancel : ∀ n e, roundDiv (n * unitsPerOne) (unitsPerOne * bitWeight e) =
      roundDiv n (bitWeight e) := by
    intro n e
    rw [Nat.mul_comm unitsPerOne, roundDiv_mul_mul hUnits]
  rw [roundRatio, Nat.mul_div_cancel _ hUnits, hCancel]
  by_cases hm : m < exponentWeight
  · -- Below the second binade units and magnitudes are the same.
    have hOne : bitWeight 0 = 1 := rfl
    have hRound : roundDiv m 1 = m := by
      simpa using roundDiv_mul (n := m) (d := 1) (by decide)
    have hLess : m < bitWeight 53 := Nat.lt_of_lt_of_le hm (bitWeight_mono (by decide))
    rw [unitsOfMagnitude_of_lt hm, binade_of_lt hLess, hOne, hRound]
    omega
  · obtain ⟨k, f, hf, rfl⟩ := exists_binade_eq (Nat.le_of_not_lt hm)
    have hSum : k * exponentWeight + (exponentWeight + f) = (k + 1) * exponentWeight + f := by
      rw [Nat.succ_mul, Nat.add_assoc]
    rw [unitsOfMagnitude_of_binade hf, binade_mul_bitWeight hf, roundDiv_mul (bitWeight_pos k),
      hSum]
    omega

/-- No finite number comes up to the weight of bit 1024. -/
theorem units_lt {x : Binary64} (hx : x.isFinite = true) :
    x.units < bitWeight 1024 * unitsPerOne := by
  have hPos : 0 < exponentWeight := bitWeight_pos 52
  have hm := magnitude_lt_of_isFinite hx
  have hSplit :
      bitWeight 1024 * unitsPerOne = (exponentWeight + exponentWeight) * bitWeight 2045 := by
    have hHalf : exponentWeight + exponentWeight = bitWeight 53 := rfl
    rw [hHalf, unitsPerOne, ← bitWeight_add, ← bitWeight_add]
  rw [units, unitsOfMagnitude, hSplit]
  split
  · next hDiv =>
    have hLess : x.magnitude < exponentWeight := (Nat.div_eq_zero_iff_lt hPos).mp hDiv
    have hWeight := bitWeight_pos 2045
    calc x.magnitude < exponentWeight + exponentWeight := by omega
      _ ≤ (exponentWeight + exponentWeight) * bitWeight 2045 := Nat.le_mul_of_pos_right _ hWeight
  · have hExponent : x.magnitude / exponentWeight < 2047 := (Nat.div_lt_iff_lt_mul hPos).mpr hm
    have hFraction := Nat.mod_lt x.magnitude hPos
    have hWeight : bitWeight (x.magnitude / exponentWeight - 1) ≤ bitWeight 2045 :=
      bitWeight_mono (by omega)
    exact Nat.mul_lt_mul_of_lt_of_le (by omega) hWeight (bitWeight_pos _)

/-- What is known of the power of five in the exact decimal number. -/
theorem exists_exactDecimal_eq (x : Binary64) :
    ∃ five, placeWeight 750 ≤ five ∧ placeWeight 1074 = unitsPerOne * five ∧
      x.exactDecimal = ⟨false, x.units * five, -1074⟩ := by
  refine ⟨_, ?_, ?_, rfl⟩
  · decide +kernel
  · unfold unitsPerOne
    generalize 1074 = n
    exact placeWeight_eq n

/-- The exact decimal number reads back. -/
theorem ofDecimal_exactDecimal {x : Binary64} (hx : x.isFinite = true) :
    ofDecimal x.exactDecimal = x.abs := by
  have hm := magnitude_lt_of_isFinite hx
  obtain ⟨five, hLeast, hTens, hExact⟩ := exists_exactDecimal_eq x
  have hFive : 0 < five := Nat.lt_of_lt_of_le (placeWeight_pos 750) hLeast
  have hRound : ofRatio false (x.units * five) (placeWeight 1074) = x.abs := by
    rw [hTens, ofRatio, roundRatio_mul_mul hFive]
    exact congrArg (ofMagnitude false) (roundRatio_unitsOfMagnitude (Nat.le_of_lt hm))
  by_cases hUnits : x.units = 0
  · rw [← hRound, hExact, hUnits, Nat.zero_mul, ofDecimal_zero, ofRatio, roundRatio_zero]
  -- The exact number has between 751 and 1383 digits, so its power of ten is in range.
  have hDigits : x.units * five ≠ 0 := Nat.mul_ne_zero hUnits (Nat.ne_of_gt hFive)
  have hHigh : places (x.units * five) ≤ 1383 := by
    apply places_le hDigits
    calc x.units * five < bitWeight 1024 * unitsPerOne * five :=
          Nat.mul_lt_mul_of_pos_right (units_lt hx) hFive
      _ = bitWeight 1024 * placeWeight 1074 := by rw [Nat.mul_assoc, hTens]
      _ ≤ placeWeight 309 * placeWeight 1074 := Nat.mul_le_mul_right _ (by decide +kernel)
      _ = placeWeight 1383 := (placeWeight_add 309 1074).symm
  have hLow : 750 < places (x.units * five) := by
    apply lt_places
    calc placeWeight 750 ≤ five := hLeast
      _ ≤ x.units * five := Nat.le_mul_of_pos_left _ (Nat.pos_of_ne_zero hUnits)
  rw [hExact, ofDecimal]
  simp only
  rw [if_neg hDigits, if_neg (by omega), if_neg (by omega)]
  exact hRound

/-! ## The shortest decimal number -/

theorem negative_of_onGrid? {tie : TieRule} {x : Binary64} {count : Nat} {d : Decimal}
    (h : onGrid? tie x count = some d) : d.negative = false := by
  obtain ⟨n, -, rfl⟩ := List.mem_map.mp (List.mem_of_find?_eq_some h)
  rfl

theorem ofDecimal_shortest_eq_abs (tie : TieRule) {x : Binary64} (hx : x.isFinite = true) :
    ofDecimal (x.shortest tie) = x.abs := by
  unfold shortest
  rw [ofDecimal_strip]
  cases h : (List.range 17).findSome? fun k => onGrid? tie x (k + 1) with
  | none => exact ofDecimal_exactDecimal hx
  | some d =>
    obtain ⟨k, -, hk⟩ := List.exists_of_findSome?_eq_some h
    have hSign := negative_of_onGrid? hk
    rw [Option.getD_some, ← hSign]
    exact ofDecimal_of_onGrid? hk

/-- The shortest decimal number reads back, with its sign. -/
theorem ofDecimal_shortest (tie : TieRule) {x : Binary64} (hx : x.isFinite = true) :
    ofDecimal ⟨x.negative, (x.shortest tie).digits, (x.shortest tie).exponent⟩ = x := by
  have hSign : (x.shortest tie).negative = false := rfl
  have hRead := ofDecimal_shortest_eq_abs tie hx
  generalize x.shortest tie = d at hSign hRead ⊢
  obtain ⟨neg, n, e⟩ := d
  obtain rfl : neg = false := hSign
  exact ofDecimal_of_abs hRead hx

/-- A number other than zero has a digit other than zero. -/
theorem digits_shortest_ne_zero (tie : TieRule) {x : Binary64} (hx : x.isFinite = true)
    (h : x.magnitude ≠ 0) : (x.shortest tie).digits ≠ 0 := by
  intro hZero
  have hRead := ofDecimal_shortest tie hx
  rw [hZero, ofDecimal_zero] at hRead
  have hMagnitude := congrArg magnitude hRead
  rw [magnitude_ofMagnitude _ (bitWeight_pos 63)] at hMagnitude
  exact h hMagnitude.symm

end RuleVerdict.Binary64
