import RuleVerdict.Text.Digits

/-!
# Atom ids

An atom is known by a number of 32 bits, which a logic text and a message write in decimal.

* `ofNat?_eq_some_iff`: which number is which id.
* `ofDigits?_digits`: an id is read back from its digits.
-/

namespace RuleVerdict

/-- The number by which a logic text refers to an atom of its group. -/
abbrev AtomId := UInt32

namespace AtomId

/-- The largest atom id. -/
def greatest : Nat := 4294967295

/-- The id of the given number, if it is not too large. -/
def ofNat? (n : Nat) : Option AtomId := if n ≤ greatest then some (UInt32.ofNat n) else none

/-- The id that a text of digits alone writes. -/
def ofDigits? (cs : List Char) : Option AtomId := (Text.number? cs).bind ofNat?

/-- The decimal digits of an id. -/
def digits (id : AtomId) : List Char := Text.toDigits id.toNat

/-- The decimal text of an id. -/
def text (id : AtomId) : String := Text.numeral id.toNat

theorem ofNat?_toNat (id : AtomId) : ofNat? id.toNat = some id := by
  have h : id.toNat ≤ greatest := by have := id.toNat_lt; simp [greatest]; omega
  simp [ofNat?, h]

theorem ofNat?_eq_some_iff {n : Nat} {id : AtomId} : ofNat? n = some id ↔ n = id.toNat := by
  constructor
  · intro h
    unfold ofNat? at h
    split at h
    · next hn =>
      cases h
      simp only [greatest] at hn
      rw [UInt32.toNat_ofNat_of_lt' (by simp [UInt32.size]; omega)]
    · cases h
  · rintro rfl
    exact ofNat?_toNat id

theorem ofDigits?_digits (id : AtomId) : ofDigits? id.digits = some id := by
  simp [ofDigits?, digits, Text.number?_toDigits, ofNat?_toNat]

end AtomId

end RuleVerdict
