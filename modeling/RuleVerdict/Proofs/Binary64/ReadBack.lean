import RuleVerdict.Binary64.Text
import RuleVerdict.Proofs.Json.Numbers

/-!
# Numbers that are read back from their text

The text of a finite number is a run of digits with a point or without one, behind a minus or
behind nothing, and it reads as the same number, the negative zero included. It is also an item of
its own where it is taken for a list: it holds no comma and no blank.

* `readUnsigned?_positional`: digits around a point have the value that they had before.
* `read?_renderChars`: a finite number is read back.
* `isFinite_ofInt`: the number nearest to an integer of 64 bits is finite.
-/

namespace RuleVerdict.Binary64

open Text JsonNumber

/-! ## Digits around a point -/

/-- A number is written as digits alone, with zeros for its exponent, or as digits around a point,
of which there are as many behind the point as its exponent asks for. -/
theorem positional_cases (n : Nat) (e : Int) :
    (∃ k : Nat, e = k ∧ Decimal.positional n e = toDigits n ++ List.replicate k '0') ∨
      ∃ us vs, Decimal.positional n e = us ++ '.' :: vs ∧ IsDigits us ∧ IsDigits vs ∧
        ofDigits (us ++ vs) = n ∧ e = -(vs.length : Int) := by
  have hDigits := isDigits_toDigits n
  cases e with
  | ofNat k => exact .inl ⟨k, rfl, rfl⟩
  | negSucc k =>
    right
    unfold Decimal.positional
    dsimp only
    split
    · next hShort =>
      have hZero : IsDigits ['0'] := ⟨by simp, by simp [isDigit]⟩
      refine ⟨['0'], List.replicate (k + 1 - (toDigits n).length) '0' ++ toDigits n, rfl, hZero,
        hDigits.zeros_append _, ?_, ?_⟩
      · rw [← List.append_assoc, List.singleton_append, ← List.replicate_succ,
          ofDigits_zeros_append, ofDigits_toDigits]
      · rw [List.length_append, List.length_replicate]
        omega
    · next hLong =>
      refine ⟨_, _, rfl, ⟨?_, fun c hc => hDigits.2 c (List.mem_of_mem_take hc)⟩,
        ⟨?_, fun c hc => hDigits.2 c (List.mem_of_mem_drop hc)⟩, ?_, ?_⟩
      · apply List.ne_nil_of_length_pos
        rw [List.length_take]
        omega
      · apply List.ne_nil_of_length_pos
        rw [List.length_drop]
        omega
      · rw [List.take_append_drop, ofDigits_toDigits]
      · rw [List.length_drop]
        omega

theorem takeWhile_and_dropWhile_self {ds : List Char} (h : IsDigits ds) :
    ds.takeWhile isDigit = ds ∧ ds.dropWhile isDigit = [] := by
  have hAppend := Json.takeWhile_and_dropWhile h.2 Json.ends_nil.noDigit
  rwa [List.append_nil] at hAppend

theorem readUnsigned_whole (neg : Bool) {us : List Char} (h : IsDigits us) :
    Decimal.readUnsigned neg us = some (⟨neg, ofDigits us, 0⟩, []) := by
  obtain ⟨hTake, hDrop⟩ := takeWhile_and_dropWhile_self h
  simp [Decimal.readUnsigned, Decimal.readFraction, Decimal.readExponent, hTake, hDrop, h.1]

theorem readUnsigned_around (neg : Bool) {us vs : List Char} (hus : IsDigits us)
    (hvs : IsDigits vs) :
    Decimal.readUnsigned neg (us ++ '.' :: vs) =
      some (⟨neg, ofDigits (us ++ vs), -(vs.length : Int)⟩, []) := by
  have hPoint : Json.NoDigit ('.' :: vs) := Json.noDigit_cons (by decide) vs
  obtain ⟨hTake, hDrop⟩ := Json.takeWhile_and_dropWhile hus.2 hPoint
  obtain ⟨hTake', hDrop'⟩ := takeWhile_and_dropWhile_self hvs
  simp [Decimal.readUnsigned, Decimal.readFraction, Decimal.readExponent, hTake, hDrop, hTake',
    hDrop', hus.1]

/-- Digits around a point have the value that they had before, wherever the point is. -/
theorem exists_readUnsigned_positional (neg : Bool) (n : Nat) (e : Int) :
    ∃ d, Decimal.readUnsigned neg (Decimal.positional n e) = some (d, []) ∧
      ofDecimal d = ofDecimal ⟨neg, n, e⟩ := by
  rcases positional_cases n e with ⟨k, rfl, hText⟩ | ⟨us, vs, hText, hus, hvs, hDigits, rfl⟩
  · rw [hText]
    refine ⟨_, readUnsigned_whole neg ((isDigits_toDigits n).append_zeros k), ?_⟩
    rw [ofDigits_append_zeros, ofDigits_toDigits, ofDecimal_mul_placeWeight, Int.zero_add]
  · rw [hText]
    refine ⟨_, readUnsigned_around neg hus hvs, ?_⟩
    rw [hDigits]

/-- A digit, a point or a minus. -/
def IsNumberChar (c : Char) : Prop := isDigit c = true ∨ c = '.' ∨ c = '-'

theorem isNumberChar_of_mem_positional {n : Nat} {e : Int} {c : Char}
    (h : c ∈ Decimal.positional n e) : IsNumberChar c := by
  rcases positional_cases n e with ⟨k, -, hText⟩ | ⟨us, vs, hText, hus, hvs, -, -⟩
  · exact .inl (((isDigits_toDigits n).append_zeros k).2 c (hText ▸ h))
  · rw [hText, List.mem_append, List.mem_cons] at h
    rcases h with h | rfl | h
    · exact .inl (hus.2 c h)
    · exact .inr (.inl rfl)
    · exact .inl (hvs.2 c h)

/-- A number that is written around a point begins with a digit. -/
theorem positional_head (n : Nat) (e : Int) :
    ∃ c cs, Decimal.positional n e = c :: cs ∧ isDigit c = true := by
  rcases positional_cases n e with ⟨k, -, hText⟩ | ⟨us, vs, hText, hus, -, -, -⟩
  · have hDigits := (isDigits_toDigits n).append_zeros k
    obtain ⟨c, cs, hcs⟩ := List.exists_cons_of_ne_nil hDigits.1
    exact ⟨c, cs, hText.trans hcs, hDigits.2 c (hcs ▸ List.mem_cons_self)⟩
  · obtain ⟨c, cs, rfl⟩ := List.exists_cons_of_ne_nil hus.1
    exact ⟨c, _, hText, hus.2 c List.mem_cons_self⟩

/-! ## Whole texts -/

/-- What begins with a digit is no word. -/
theorem isWord_digit_cons {c w : Char} (hc : isDigit c = true) (hw : isDigit w = false)
    (ws : List Char) (cs : List Char) : isWord (String.ofList (w :: ws)) (c :: cs) = false := by
  have hLower : asciiLower c = c := by
    simp only [isDigit, Bool.and_eq_true, decide_eq_true_eq] at hc
    rw [asciiLower, if_neg]
    rintro ⟨hLow, -⟩
    exact absurd (Char.le_trans hLow hc.2) (by decide)
  have hne : c ≠ w := by
    rintro rfl
    rw [hc] at hw
    cases hw
  simp [isWord, hLower, hne]

theorem readUnsigned?_positional (neg : Bool) (n : Nat) (e : Int) :
    readUnsigned? neg (Decimal.positional n e) = some (ofDecimal ⟨neg, n, e⟩) := by
  obtain ⟨d, hRead, hSame⟩ := exists_readUnsigned_positional neg n e
  obtain ⟨c, cs, hText, hc⟩ := positional_head n e
  rw [hText] at hRead ⊢
  have hInf : isWord "inf" (c :: cs) = false := isWord_digit_cons hc (w := 'i') (by decide) _ cs
  have hInfinity : isWord "infinity" (c :: cs) = false :=
    isWord_digit_cons hc (w := 'i') (by decide) _ cs
  have hNaN : isWord "nan" (c :: cs) = false := isWord_digit_cons hc (w := 'n') (by decide) _ cs
  rw [readUnsigned?, hInf, hInfinity, hNaN, hRead]
  simp [hSame]

theorem read?_signed (neg : Bool) {c : Char} (hc : isDigit c = true) (cs : List Char) :
    read? (signed neg (c :: cs)) = readUnsigned? neg (c :: cs) := by
  cases neg with
  | true => rfl
  | false =>
    have hMinus : c ≠ '-' := by rintro rfl; exact absurd hc (by decide)
    have hPlus : c ≠ '+' := by rintro rfl; exact absurd hc (by decide)
    simp [signed, read?, hMinus, hPlus]

variable {x : Binary64}

/-- A finite number is written as a sign and digits around a point that have its value. -/
theorem exists_renderChars_eq (hx : x.isFinite = true) :
    ∃ n e, x.renderChars = signed x.negative (Decimal.positional n e) ∧
      ofDecimal ⟨x.negative, n, e⟩ = x := by
  have hLess := magnitude_lt_of_isFinite hx
  have hNumber : x.isNaN = false := decide_eq_false (by omega)
  have hBounded : x.isInfinite = false := decide_eq_false (by omega)
  unfold renderChars
  simp only [hNumber, hBounded, Bool.false_eq_true, if_false]
  split
  · next hZero =>
    have hText : Decimal.positional 0 0 = ['0'] := by decide +kernel
    refine ⟨0, 0, by rw [hText], ?_⟩
    rw [ofDecimal_zero, ← hZero, ofMagnitude_magnitude]
  · exact ⟨_, _, rfl, ofDecimal_shortest .upper hx⟩

/-- A finite number is read back from its text. -/
theorem read?_renderChars (hx : x.isFinite = true) : read? x.renderChars = some x := by
  obtain ⟨n, e, hText, hSame⟩ := exists_renderChars_eq hx
  obtain ⟨c, cs, hDigits, hc⟩ := positional_head n e
  have hRead := readUnsigned?_positional x.negative n e
  rw [hSame, hDigits] at hRead
  rw [hText, hDigits, read?_signed x.negative hc, hRead]

theorem isNumberChar_of_mem_renderChars (hx : x.isFinite = true) {c : Char}
    (h : c ∈ x.renderChars) : IsNumberChar c := by
  obtain ⟨n, e, hText, -⟩ := exists_renderChars_eq hx
  rw [hText, signed] at h
  split at h
  · rcases List.mem_cons.mp h with rfl | h
    · exact .inr (.inr rfl)
    · exact isNumberChar_of_mem_positional h
  · exact isNumberChar_of_mem_positional h

/-! ## Integers -/

theorem roundDiv_le (n d : Nat) : roundDiv n d ≤ n / d + 1 := by
  unfold roundDiv
  split <;> omega

/-- Behind its binade a number has at most 53 bits. -/
theorem div_bitWeight_binade_lt (n : Nat) : n / bitWeight (binade n) < bitWeight 53 := by
  have hOwn : n < bitWeight (n.log2 + 1) := Nat.lt_log2_self
  rw [Nat.div_lt_iff_lt_mul (bitWeight_pos _), ← bitWeight_add]
  refine Nat.lt_of_lt_of_le hOwn (bitWeight_mono ?_)
  rw [binade]
  omega

/-- A number of units rounds to a magnitude no further than two binades above its own. -/
theorem rounded_le {u k : Nat} (h : u < bitWeight (k + 53)) :
    binade u * exponentWeight + roundDiv u (bitWeight (binade u)) ≤ (k + 2) * exponentWeight := by
  have hBinade := binade_le h
  have hSteps : binade u * exponentWeight ≤ k * exponentWeight :=
    Nat.mul_le_mul_right _ hBinade
  have hQuotient := div_bitWeight_binade_lt u
  have hRound := roundDiv_le u (bitWeight (binade u))
  have hTwice : bitWeight 53 = 2 * exponentWeight := rfl
  rw [Nat.add_mul]
  omega

/-- Numbers of 64 bits lie far below the last binade. -/
theorem roundRatio_lt {n : Nat} (h : n < bitWeight 64) : roundRatio n 1 < infiniteMagnitude := by
  have hUnits : n * unitsPerOne < bitWeight (1085 + 53) := by
    have hSplit : bitWeight 64 * unitsPerOne = bitWeight (1085 + 53) := by
      rw [unitsPerOne, ← bitWeight_add]
    rw [← hSplit]
    exact Nat.mul_lt_mul_of_pos_right h (bitWeight_pos 1074)
  have hRound := rounded_le hUnits
  rw [roundRatio, Nat.div_one, Nat.one_mul]
  have hBelow : (1085 + 2) * exponentWeight < infiniteMagnitude := by decide
  omega

theorem isFinite_ofMagnitude (neg : Bool) {m : Nat} (h : m < infiniteMagnitude) :
    (ofMagnitude neg m).isFinite = true := by
  rw [isFinite, magnitude_ofMagnitude neg (lt_signWeight_of_le (Nat.le_of_lt h))]
  exact decide_eq_true h

/-- The number nearest to an integer of 64 bits is finite. -/
theorem isFinite_ofInt (i : Int64) : (ofInt i.toInt).isFinite = true := by
  have hLow := i.le_toInt
  have hHigh := i.toInt_lt
  have hBits : bitWeight 64 = 18446744073709551616 := rfl
  exact isFinite_ofMagnitude _ (roundRatio_lt (by omega))

theorem isNaN_of_isFinite {x : Binary64} (h : x.isFinite = true) : x.isNaN = false :=
  decide_eq_false (Nat.lt_asymm (magnitude_lt_of_isFinite h))

end RuleVerdict.Binary64
