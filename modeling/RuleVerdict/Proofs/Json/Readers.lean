import RuleVerdict.Proofs.Binary64.Scaling
import RuleVerdict.Proofs.Json.Embedding

/-!
# Readers of JSON

Whatever is decoded from JSON is decoded with a reader. What a reader owes is that it reads the
texts that are written, takes an object apart into what stands in it, and finds finite numbers only.
It need not find a binary number again from the text that is written of it: the standard reader
rounds the digits and a power of ten apart from each other, and so it may miss the nearest number.
It does not where the digits form an integer of 53 bits and the point is moved by 22 places at most.

* `lawful_standard`: the standard reader does what is asked of readers.
* `roundTrips_nearest`: a reader that takes the nearest number finds every number again.
* `toBinary64?_of_short`: the numbers that the two readers agree on.
-/

namespace RuleVerdict

open Text Json

namespace JsonNumber

variable {n : JsonNumber} {x : Binary64}

/-! ## Finite numbers -/

/-- The nearest number is finite: a decimal number is never read as none at all. -/
theorem isFinite_of_nearest? (h : n.nearest? = some x) : x.isFinite = true := by
  obtain ⟨m, hm, hSame⟩ :=
    Binary64.exists_ofDecimal_eq n.toDecimal.digits n.toDecimal.exponent
  have hMost : (Binary64.ofDecimal n.toDecimal).magnitude ≤ Binary64.infiniteMagnitude := by
    rw [hSame n.toDecimal.negative,
      Binary64.magnitude_ofMagnitude _ (Binary64.lt_signWeight_of_le hm)]
    exact hm
  simp only [nearest?] at h
  split at h
  · cases h
  · next hFinite =>
    cases h
    exact Binary64.isFinite_of_not_isInfinite hMost hFinite

/-- The number that is taken is finite. -/
theorem isFinite_of_toBinary64? (h : n.toBinary64? = some x) : x.isFinite = true := by
  have hMost := Binary64.magnitude_scale_le
    (Binary64.magnitude_ofRatio_le n.significand.1 1) n.significand.2
  simp only [toBinary64?] at h
  split at h
  · cases h
  · next hFinite =>
    cases h
    have hScaled := Binary64.isFinite_of_not_isInfinite hMost hFinite
    exact Binary64.isFinite_ofMagnitude _ (Binary64.magnitude_lt_of_isFinite hScaled)

/-! ## Short numbers -/

theorem le_foldl_digits (s : Nat) (cs : List Char) :
    s ≤ cs.foldl (fun n c => n * 10 + digitValue c) s := by
  induction cs generalizing s with
  | nil => exact Nat.le_refl s
  | cons c cs ih => exact Nat.le_trans (by omega) (ih (s * 10 + digitValue c))

/-- Digits that all fit are all taken. -/
theorem absorb_of_le {s : Nat} {cs : List Char}
    (h : cs.foldl (fun n c => n * 10 + digitValue c) s ≤ greatestSignificand) :
    absorb s cs = (cs.foldl (fun n c => n * 10 + digitValue c) s, 0) := by
  induction cs generalizing s with
  | nil => rfl
  | cons c cs ih =>
    rw [List.foldl_cons] at h ⊢
    have hNext := Nat.le_trans (le_foldl_digits (s * 10 + digitValue c) cs) h
    rw [absorb, if_pos hNext, ih h]

/-- A number whose digits form an integer of 53 bits and whose point is moved by at most 22
places. -/
structure Short (n : JsonNumber) : Prop where
  digits : n.toDecimal.digits ≤ Binary64.bitWeight 53
  low : -22 ≤ n.toDecimal.exponent
  high : n.toDecimal.exponent ≤ 22

/-- All digits of a short number count. -/
theorem Short.significand_eq (h : n.Short) :
    n.significand = (n.toDecimal.digits, n.toDecimal.exponent) := by
  have hBits : Binary64.bitWeight 53 ≤ greatestSignificand := by decide
  have hAll : (n.fraction.getD []).foldl (fun n c => n * 10 + digitValue c) (ofDigits n.whole) =
      n.toDecimal.digits := (ofDigits_append n.whole _).symm
  have hMost : n.toDecimal.digits ≤ greatestSignificand := Nat.le_trans h.digits hBits
  have hFraction : absorb (ofDigits n.whole) (n.fraction.getD []) = (n.toDecimal.digits, 0) := by
    rw [absorb_of_le (hAll ▸ hMost), hAll]
  have hWhole : absorb 0 n.whole = (ofDigits n.whole, 0) :=
    absorb_of_le (Nat.le_trans (le_foldl_digits _ _) (hAll ▸ hMost))
  simp only [significand, hWhole, hFraction, toDecimal]
  simp

/-- A short number is taken for the nearest one. -/
theorem toBinary64?_of_short (h : n.Short) : n.toBinary64? = n.nearest? := by
  obtain ⟨m, hm, hSame⟩ :=
    Binary64.exists_ofDecimal_eq n.toDecimal.digits n.toDecimal.exponent
  have hLess := Binary64.lt_signWeight_of_le hm
  have hScale := Binary64.scale_eq_ofDecimal h.digits h.low h.high
  simp only [toBinary64?, nearest?, h.significand_eq, hScale, hSame, Binary64.isInfinite,
    Binary64.magnitude_ofMagnitude _ hLess]
  rfl

end JsonNumber

namespace JsonReader

variable {x : Binary64}

/-- What is asked of a reader: it reads what is written, it reads an object from the texts of its
names and values, and it finds finite numbers only. -/
structure Lawful (R : JsonReader) : Prop where
  written : ∀ v : Json, v.Writable → R.read? v.render = some v
  object : ∀ texts ms, List.Forall₂ (WritesMember R.read?) texts ms →
    R.read? (objectText texts) = some (.object ms)
  finite : ∀ n x, R.number? n = some x → x.isFinite = true

/-- The binary number is found again from the text that is written of it. -/
def Keeps (R : JsonReader) (x : Binary64) : Prop :=
  x.isFinite = true → R.number? (.ofBinary64 x) = some x

instance decidableKeeps (R : JsonReader) (x : Binary64) : Decidable (R.Keeps x) :=
  inferInstanceAs (Decidable (x.isFinite = true → R.number? (.ofBinary64 x) = some x))

/-- Every binary number is found again from the text that is written of it. -/
def RoundTrips (R : JsonReader) : Prop := ∀ x, R.Keeps x

theorem lawful_standard : standard.Lawful where
  written _ := read?_render
  object _ _ := read?_objectText
  finite _ _ := JsonNumber.isFinite_of_toBinary64?

theorem keeps_standard_of_short (h : (JsonNumber.ofBinary64 x).Short) : standard.Keeps x := by
  intro hx
  have hNearest := JsonNumber.nearest?_ofBinary64 hx
  exact (JsonNumber.toBinary64?_of_short h).trans hNearest

/-- Not every number is found again by the standard reader: it takes `5e+32` for the number next to
it. -/
example : ¬standard.RoundTrips := by
  intro h
  have hKept := h ⟨5096006472832567708⟩ (by decide +kernel)
  revert hKept
  decide +kernel

/-- The reader that takes the nearest number. -/
def nearest : JsonReader := ⟨Json.read?, JsonNumber.nearest?⟩

theorem lawful_nearest : nearest.Lawful where
  written _ := read?_render
  object _ _ := read?_objectText
  finite _ _ := JsonNumber.isFinite_of_nearest?

theorem roundTrips_nearest : nearest.RoundTrips := fun _ => JsonNumber.nearest?_ofBinary64

end JsonReader

end RuleVerdict
