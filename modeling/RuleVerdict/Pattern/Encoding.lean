import RuleVerdict.Pattern.Form

/-!
# Ranges of characters as ranges of bytes

A text is compared byte by byte in UTF-8. The characters of a range are those whose first byte,
second byte and so on each lie in some range, if the range is cut where the number of bytes changes
and where a block of 64, 4096 or 262144 code points ends that the range holds only in part.

* `encoded_length`: a code point is encoded in as many bytes as its length says.
* `byteRanges_ascii`: a range of ASCII characters is one range of bytes.
-/

namespace RuleVerdict.Pattern

/-- The first and the last byte of a range. -/
abbrev ByteRange := Nat × Nat

/-- The bytes of a code point in UTF-8. -/
def encoded (n : Nat) : List Nat :=
  if n ≤ 0x7F then [n]
  else if n ≤ 0x7FF then [0xC0 + n / 64, 0x80 + n % 64]
  else if n ≤ 0xFFFF then [0xE0 + n / 4096, 0x80 + n / 64 % 64, 0x80 + n % 64]
  else [0xF0 + n / 262144, 0x80 + n / 4096 % 64, 0x80 + n / 64 % 64, 0x80 + n % 64]

theorem encoded_length (n : Nat) : (encoded n).length = Form.encodedLength n := by
  unfold encoded Form.encodedLength
  split
  · rfl
  · split
    · rfl
    · split <;> rfl

/-- The bytes of some characters. -/
def encodedText (cs : List Char) : List Nat := cs.flatMap fun c => encoded c.toNat

/-- Where a range goes beyond a code point that ends a length of encoding: that code point. -/
def lengthCut? (a b : Nat) : Option Nat :=
  if a ≤ 0x7F ∧ 0x7F < b then some 0x7F
  else if a ≤ 0x7FF ∧ 0x7FF < b then some 0x7FF
  else if a ≤ 0xFFFF ∧ 0xFFFF < b then some 0xFFFF
  else none

/-- Where a range reaches from one block of the size into another and holds one of the two only in
part: the last code point of the part that goes first. -/
def blockCut? (size a b : Nat) : Option Nat :=
  if a / size = b / size then none
  else if a % size ≠ 0 then some (a / size * size + size - 1)
  else if b % size ≠ size - 1 then some (b / size * size - 1)
  else none

/-- Where a range has to be cut. ASCII characters need no cut. -/
def cut? (a b : Nat) : Option Nat :=
  (lengthCut? a b).or
    (if b ≤ 0x7F then none
    else ((blockCut? 64 a b).or (blockCut? 4096 a b)).or (blockCut? 262144 a b))

/-- The rows of byte ranges that the code points from `a` to `b` make, in ascending order. The block
of code points that stands for no characters is left out. -/
def byteRanges (a b : Nat) : List (List ByteRange) :=
  if b < a then []
  else if _h : a < 0xE000 ∧ 0xD7FF < b then byteRanges a 0xD7FF ++ byteRanges 0xE000 b
  else
    match cut? a b with
    | none => [(encoded a).zip (encoded b)]
    | some m =>
      if _h : a ≤ m ∧ m < b then byteRanges a m ++ byteRanges (m + 1) b
      else [(encoded a).zip (encoded b)]
  termination_by b + 1 - a

theorem byteRanges_ascii {a b : Nat} (hab : a ≤ b) (hb : b ≤ 0x7F) :
    byteRanges a b = [[(a, b)]] := by
  have hcut : cut? a b = none := by
    have h1 : ¬ (a ≤ 0x7F ∧ 0x7F < b) := by omega
    have h2 : ¬ (a ≤ 0x7FF ∧ 0x7FF < b) := by omega
    have h3 : ¬ (a ≤ 0xFFFF ∧ 0xFFFF < b) := by omega
    simp [cut?, lengthCut?, h1, h2, h3, hb]
  rw [byteRanges.eq_def, if_neg (by omega), dif_neg (by omega), hcut]
  simp [encoded, hb, Nat.le_trans hab hb]

end RuleVerdict.Pattern
