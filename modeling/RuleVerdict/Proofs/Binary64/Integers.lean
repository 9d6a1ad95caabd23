import Mathlib.Order.Monotone.Basic
import RuleVerdict.Proofs.Binary64.ReadBack

/-!
# The order of integers as binary numbers

A binary number has 53 significant bits. An integer with more of them is rounded to the nearest
one that has no more, a tie to the even one, and this is a matter of whole numbers: the binary
number of an integer has as many units as one has, times the rounded integer. Rounding keeps the
order, but beyond 53 bits it may take different integers to the same.

* `nearest_mono`, `nearest_of_le`: rounding keeps the order and all numbers of 53 bits.
* `signedUnits_ofInt`: the binary number of an integer is the rounded integer.
* `rank_lt_iff`: numbers are in the order of their units.
* `rank_ofInt_lt_iff`: binary numbers of integers are in the order of the rounded integers.
-/

namespace RuleVerdict.Binary64

/-! ## Rounding to 53 bits -/

/-- The nearest natural number of 53 significant bits, as a multiple of the weight of the last of
these. A number between two such multiples goes to the nearer one, a tie to the even multiple. -/
def nearest (n : Nat) : Nat := roundDiv n (bitWeight (binade n)) * bitWeight (binade n)

/-- The nearest integer of 53 significant bits. -/
def nearestInt (i : Int) : Int := if i < 0 then -(nearest i.natAbs : Int) else nearest i.natAbs

theorem le_roundDiv (n d : Nat) : n / d ≤ roundDiv n d := by
  unfold roundDiv
  split <;> omega

theorem roundDiv_mono {m n : Nat} (h : m ≤ n) (d : Nat) : roundDiv m d ≤ roundDiv n d := by
  rcases Nat.lt_or_eq_of_le (Nat.div_le_div_right (c := d) h) with hLess | hSame
  · calc roundDiv m d ≤ m / d + 1 := roundDiv_le m d
      _ ≤ n / d := hLess
      _ ≤ roundDiv n d := le_roundDiv n d
  · have hm := Nat.div_add_mod m d
    have hn := Nat.div_add_mod n d
    rw [hSame] at hm
    have hRest : m % d ≤ n % d := by omega
    simp only [roundDiv, hSame]
    split <;> split <;> omega

theorem roundDiv_mul_of_dvd {n d : Nat} (hd : 0 < d) (h : d ∣ n) : roundDiv n d * d = n := by
  obtain ⟨q, rfl⟩ := h
  rw [Nat.mul_comm d q, roundDiv_mul hd]

theorem binade_mono {m n : Nat} (h : m ≤ n) : binade m ≤ binade n := by
  by_cases hm : m = 0
  · rw [hm, binade, Nat.log2_zero]
    omega
  · have hLog : m.log2 ≤ n.log2 :=
      (Nat.le_log2 (by omega)).mpr (Nat.le_trans (Nat.log2_self_le hm) h)
    exact Nat.sub_le_sub_right hLog 52

/-- A number of at least 53 bits has 53 of them in front of its binade. -/
theorem le_div_bitWeight_binade {n : Nat} (h : exponentWeight ≤ n) :
    exponentWeight ≤ n / bitWeight (binade n) := by
  have hn : n ≠ 0 := Nat.ne_of_gt (Nat.lt_of_lt_of_le (bitWeight_pos 52) h)
  have hLog : 52 ≤ n.log2 := (Nat.le_log2 hn).mpr h
  have hWeight : exponentWeight * bitWeight (binade n) = bitWeight n.log2 := by
    rw [exponentWeight, ← bitWeight_add, binade]
    exact congrArg bitWeight (by omega)
  rw [Nat.le_div_iff_mul_le (bitWeight_pos _), hWeight]
  exact Nat.log2_self_le hn

theorem roundDiv_binade_le (n : Nat) : roundDiv n (bitWeight (binade n)) ≤ bitWeight 53 := by
  have hQuotient := div_bitWeight_binade_lt n
  have hRound := roundDiv_le n (bitWeight (binade n))
  omega

theorem le_roundDiv_binade {n : Nat} (h : exponentWeight ≤ n) :
    exponentWeight ≤ roundDiv n (bitWeight (binade n)) :=
  Nat.le_trans (le_div_bitWeight_binade h) (le_roundDiv ..)

/-- Rounding keeps the order. -/
theorem nearest_mono {m n : Nat} (h : m ≤ n) : nearest m ≤ nearest n := by
  unfold nearest
  rcases Nat.lt_or_eq_of_le (binade_mono h) with hLess | hSame
  · -- The larger number is not below the least one of its binade, and the smaller one is not
    -- rounded up beyond that.
    have hLeast : exponentWeight ≤ n := by
      by_contra hSmall
      have hBits : n < bitWeight (0 + 53) :=
        Nat.lt_of_lt_of_le (Nat.lt_of_not_le hSmall) (bitWeight_mono (by omega))
      have hNone := binade_le hBits
      omega
    calc roundDiv m (bitWeight (binade m)) * bitWeight (binade m)
        ≤ bitWeight 53 * bitWeight (binade m) := Nat.mul_le_mul_right _ (roundDiv_binade_le m)
      _ = exponentWeight * bitWeight (binade m + 1) := by
          rw [exponentWeight, ← bitWeight_add, ← bitWeight_add]
          exact congrArg bitWeight (by omega)
      _ ≤ roundDiv n (bitWeight (binade n)) * bitWeight (binade n) :=
          Nat.mul_le_mul (le_roundDiv_binade hLeast) (bitWeight_mono hLess)
  · rw [hSame]
    exact Nat.mul_le_mul_right _ (roundDiv_mono h _)

/-- What has no bits behind its first 53 ones is not changed. -/
theorem nearest_of_dvd {n : Nat} (h : bitWeight (binade n) ∣ n) : nearest n = n :=
  roundDiv_mul_of_dvd (bitWeight_pos _) h

/-- What has no more than 53 bits is not changed, and neither is the next number. -/
theorem nearest_of_le {n : Nat} (h : n ≤ bitWeight 53) : nearest n = n := by
  apply nearest_of_dvd
  rcases Nat.lt_or_eq_of_le h with hLess | rfl
  · rw [binade_of_lt hLess]
    exact Nat.one_dvd n
  · decide +kernel

/-- Zeros behind a number stay behind it when it is rounded. -/
theorem nearest_mul_bitWeight (n k : Nat) :
    nearest (n * bitWeight k) = nearest n * bitWeight k := by
  by_cases hn : n = 0
  · rw [hn, Nat.zero_mul, nearest_of_le (Nat.zero_le _), Nat.zero_mul]
  have hWeight := bitWeight_pos k
  have hLog : (n * bitWeight k).log2 = n.log2 + k := by
    have hNe : n * bitWeight k ≠ 0 := Nat.mul_ne_zero hn (Nat.ne_of_gt hWeight)
    have hNext : bitWeight (n.log2 + k + 1) = bitWeight (n.log2 + 1) * bitWeight k := by
      rw [← bitWeight_add]
      exact congrArg bitWeight (by omega)
    refine (Nat.log2_eq_iff hNe).mpr ⟨?_, ?_⟩
    · show bitWeight (n.log2 + k) ≤ n * bitWeight k
      rw [bitWeight_add]
      exact Nat.mul_le_mul_right _ (Nat.log2_self_le hn)
    · show n * bitWeight k < bitWeight (n.log2 + k + 1)
      rw [hNext]
      exact Nat.mul_lt_mul_of_pos_right Nat.lt_log2_self hWeight
  by_cases hLong : 52 ≤ n.log2
  · have hBinade : binade (n * bitWeight k) = binade n + k := by
      rw [binade, binade, hLog]
      omega
    rw [nearest, nearest, hBinade, bitWeight_add, roundDiv_mul_mul hWeight, Nat.mul_assoc]
  · -- A short number has no bits to lose, neither alone nor with zeros behind it.
    have hBits : n < bitWeight 53 :=
      Nat.lt_of_lt_of_le Nat.lt_log2_self (bitWeight_mono (by omega))
    have hBinade : k = k - binade (n * bitWeight k) + binade (n * bitWeight k) := by
      rw [binade, hLog]
      omega
    rw [nearest_of_le (Nat.le_of_lt hBits)]
    apply nearest_of_dvd
    refine Nat.dvd_trans ⟨bitWeight (k - binade (n * bitWeight k)), ?_⟩ (Nat.dvd_mul_left _ n)
    rw [Nat.mul_comm, ← bitWeight_add]
    exact congrArg bitWeight hBinade

theorem nearestInt_mono {i j : Int} (h : i ≤ j) : nearestInt i ≤ nearestInt j := by
  unfold nearestInt
  split
  · next hi =>
    split
    · next hj =>
      have hNat : nearest j.natAbs ≤ nearest i.natAbs := nearest_mono (by omega)
      omega
    · omega
  · next hi =>
    have hNat : nearest i.natAbs ≤ nearest j.natAbs := nearest_mono (by omega)
    rw [if_neg (by omega)]
    omega

theorem nearestInt_of_le {i : Int} (h : i.natAbs ≤ bitWeight 53) : nearestInt i = i := by
  rw [nearestInt, nearest_of_le h]
  split <;> omega

/-! ## Magnitudes and units -/

/-- The units of a magnitude whose fraction may have come up to the next binade. -/
theorem unitsOfMagnitude_add {e q : Nat} (hLow : exponentWeight ≤ q) (hHigh : q ≤ bitWeight 53) :
    unitsOfMagnitude (e * exponentWeight + q) = q * bitWeight e := by
  have hTwice : bitWeight 53 = exponentWeight + exponentWeight := rfl
  rcases Nat.lt_or_eq_of_le hHigh with hLess | rfl
  · have hSplit : e * exponentWeight + q = (e + 1) * exponentWeight + (q - exponentWeight) := by
      rw [Nat.succ_mul]
      omega
    rw [hSplit, unitsOfMagnitude_of_binade (by omega), Nat.add_sub_cancel' hLow]
  · have hSplit : e * exponentWeight + bitWeight 53 = (e + 1 + 1) * exponentWeight + 0 := by
      rw [Nat.succ_mul, Nat.succ_mul]
      omega
    rw [hSplit, unitsOfMagnitude_of_binade (bitWeight_pos 52), exponentWeight, Nat.add_zero,
      ← bitWeight_add, ← bitWeight_add]
    exact congrArg bitWeight (by omega)

/-- Rounding to a magnitude is rounding to 53 bits. -/
theorem unitsOfMagnitude_rounded (u : Nat) :
    unitsOfMagnitude (binade u * exponentWeight + roundDiv u (bitWeight (binade u))) =
      nearest u := by
  by_cases hu : u < exponentWeight
  · have hLess : u < bitWeight 53 := Nat.lt_of_lt_of_le hu (bitWeight_mono (by omega))
    have hOne : bitWeight 0 = 1 := rfl
    have hRound : roundDiv u 1 = u := by
      simpa using roundDiv_mul (n := u) (d := 1) (by omega)
    rw [nearest, binade_of_lt hLess, hOne, hRound, Nat.zero_mul, Nat.zero_add, Nat.mul_one]
    exact unitsOfMagnitude_of_lt hu
  · exact unitsOfMagnitude_add (le_roundDiv_binade (Nat.le_of_not_lt hu)) (roundDiv_binade_le u)

theorem unitsOfMagnitude_lt_succ (m : Nat) : unitsOfMagnitude m < unitsOfMagnitude (m + 1) := by
  have hPos : 0 < exponentWeight := bitWeight_pos 52
  by_cases hm : m < exponentWeight
  · rw [unitsOfMagnitude_of_lt hm]
    by_cases hNext : m + 1 < exponentWeight
    · rw [unitsOfMagnitude_of_lt hNext]
      omega
    · have hFirst : m + 1 = (0 + 1) * exponentWeight + 0 := by omega
      have hOne : bitWeight 0 = 1 := rfl
      rw [hFirst, unitsOfMagnitude_of_binade hPos, hOne]
      omega
  · obtain ⟨k, f, hf, rfl⟩ := exists_binade_eq (Nat.le_of_not_lt hm)
    rw [unitsOfMagnitude_of_binade hf]
    by_cases hNext : f + 1 < exponentWeight
    · rw [Nat.add_assoc, unitsOfMagnitude_of_binade hNext]
      exact Nat.mul_lt_mul_of_pos_right (by omega) (bitWeight_pos k)
    · have hFirst : (k + 1) * exponentWeight + f + 1 = (k + 1 + 1) * exponentWeight + 0 := by
        rw [Nat.succ_mul (k + 1)]
        omega
      have hDouble : bitWeight (k + 1) = 2 * bitWeight k := by
        rw [Nat.add_comm, bitWeight_add]
        rfl
      rw [hFirst, unitsOfMagnitude_of_binade hPos, hDouble, ← Nat.mul_assoc]
      exact Nat.mul_lt_mul_of_pos_right (by omega) (bitWeight_pos k)

/-- Magnitudes are in the order of their units. -/
theorem unitsOfMagnitude_lt_iff {m n : Nat} :
    unitsOfMagnitude m < unitsOfMagnitude n ↔ m < n :=
  (strictMono_nat_of_lt_succ unitsOfMagnitude_lt_succ).lt_iff_lt

/-- Numbers are in the order of their units. -/
theorem rank_lt_iff {x y : Binary64} : x.rank < y.rank ↔ x.signedUnits < y.signedUnits := by
  have hZero : unitsOfMagnitude 0 = 0 := unitsOfMagnitude_of_lt (bitWeight_pos 52)
  have hNone : ∀ z : Binary64, 0 < z.units ↔ 0 < z.magnitude := by
    intro z
    have hIff := unitsOfMagnitude_lt_iff (m := 0) (n := z.magnitude)
    rwa [hZero] at hIff
  have hx := hNone x
  have hy := hNone y
  have hLess : x.units < y.units ↔ x.magnitude < y.magnitude := unitsOfMagnitude_lt_iff
  have hMore : y.units < x.units ↔ y.magnitude < x.magnitude := unitsOfMagnitude_lt_iff
  unfold rank signedUnits
  split <;> split <;> omega

/-! ## Integers -/

theorem negative_ofMagnitude (neg : Bool) {m : Nat} (h : m < signWeight) :
    (ofMagnitude neg m).negative = neg := by
  have hSign : signWeight = 9223372036854775808 := rfl
  rw [hSign] at h
  simp only [negative, ofMagnitude, UInt64.toNat_ofNat', hSign]
  cases neg with
  | true =>
    rw [if_pos rfl]
    exact decide_eq_true (by omega)
  | false =>
    rw [if_neg (by simp)]
    exact decide_eq_false (by omega)

theorem unitsOfMagnitude_roundRatio {n : Nat} (h : n < bitWeight 64) :
    unitsOfMagnitude (roundRatio n 1) = nearest n * unitsPerOne := by
  have hBelow := roundRatio_lt h
  have hUnits := unitsOfMagnitude_rounded (n * unitsPerOne)
  rw [roundRatio, Nat.div_one, Nat.one_mul] at hBelow ⊢
  rw [Nat.min_eq_right (by omega), hUnits]
  exact nearest_mul_bitWeight n 1074

variable (i j : Int64)

/-- The binary number of an integer is the rounded integer. -/
theorem signedUnits_ofInt :
    (ofInt i.toInt).signedUnits = nearestInt i.toInt * unitsPerOne := by
  have hLow := i.le_toInt
  have hHigh := i.toInt_lt
  have hBits : bitWeight 64 = 18446744073709551616 := rfl
  have hAbs : i.toInt.natAbs < bitWeight 64 := by omega
  have hMagnitude := lt_signWeight_of_le (Nat.le_of_lt (roundRatio_lt hAbs))
  rw [signedUnits, units, ofInt, ofRatio, negative_ofMagnitude _ hMagnitude,
    magnitude_ofMagnitude _ hMagnitude, unitsOfMagnitude_roundRatio hAbs, nearestInt]
  by_cases hNegative : i.toInt < 0
  · rw [if_pos (decide_eq_true hNegative), if_pos hNegative, Int.natCast_mul, Int.neg_mul]
  · rw [if_neg (by simpa using hNegative), if_neg hNegative, Int.natCast_mul]

/-- Binary numbers of integers are in the order of the rounded integers. -/
theorem rank_ofInt_lt_iff :
    (ofInt i.toInt).rank < (ofInt j.toInt).rank ↔ nearestInt i.toInt < nearestInt j.toInt := by
  have hUnits : (0 : Int) < unitsPerOne := Int.natCast_pos.mpr (bitWeight_pos 1074)
  rw [rank_lt_iff, signedUnits_ofInt, signedUnits_ofInt]
  exact Int.mul_lt_mul_right hUnits

end RuleVerdict.Binary64
