/-!
# Decimal digits

Natural numbers as runs of the digits `0` to `9`.

* `ofDigits_toDigits`: the digits of a number have its value.
* `isDigit_of_mem_toDigits`: they are digits.
* `ofDigits_zeros_append`: leading zeros do not count.
-/

namespace RuleVerdict.Text

/-- Whether the character is one of `0` to `9`. -/
def isDigit (c : Char) : Bool := '0' ≤ c && c ≤ '9'

/-- What a digit counts. -/
def digitValue (c : Char) : Nat := c.toNat - '0'.toNat

/-- The digit that counts `d`, for `d` below ten. -/
def digit (d : Nat) : Char := Char.ofNat ('0'.toNat + d)

/-- The number that the digits write. -/
def ofDigits (cs : List Char) : Nat := cs.foldl (fun n c => n * 10 + digitValue c) 0

/-- The digits of a number, without leading zeros. -/
def toDigits (n : Nat) : List Char :=
  if n < 10 then [digit n] else toDigits (n / 10) ++ [digit (n % 10)]
termination_by n

/-- The number that a text writes, if the text is a non-empty run of digits. -/
def number? (cs : List Char) : Option Nat :=
  if !cs.isEmpty && cs.all isDigit then some (ofDigits cs) else none

/-- The decimal text of a number. -/
def numeral (n : Nat) : String := String.ofList (toDigits n)

theorem digitValue_digit {d : Nat} (h : d < 10) : digitValue (digit d) = d := by
  have : ∀ d : Fin 10, digitValue (digit d) = d := by decide
  exact this ⟨d, h⟩

theorem isDigit_digit {d : Nat} (h : d < 10) : isDigit (digit d) = true := by
  have : ∀ d : Fin 10, isDigit (digit d) = true := by decide
  exact this ⟨d, h⟩

theorem ofDigits_append (cs ds : List Char) :
    ofDigits (cs ++ ds) = ds.foldl (fun n c => n * 10 + digitValue c) (ofDigits cs) := by
  simp [ofDigits]

theorem ofDigits_concat (cs : List Char) (c : Char) :
    ofDigits (cs ++ [c]) = ofDigits cs * 10 + digitValue c := by
  simp [ofDigits]

theorem ofDigits_toDigits (n : Nat) : ofDigits (toDigits n) = n := by
  induction n using toDigits.induct with
  | case1 n h => rw [toDigits, if_pos h]; simp [ofDigits, digitValue_digit h]
  | case2 n h ih =>
    rw [toDigits, if_neg h, ofDigits_concat, ih, digitValue_digit (Nat.mod_lt _ (by decide))]
    omega

theorem toDigits_ne_nil (n : Nat) : toDigits n ≠ [] := by
  rw [toDigits]
  split <;> simp

theorem numeral_ne_empty (n : Nat) : numeral n ≠ "" := by
  intro h
  exact toDigits_ne_nil n (String.ofList_eq_empty_iff.mp h)

theorem isDigit_of_mem_toDigits {n : Nat} {c : Char} (h : c ∈ toDigits n) : isDigit c = true := by
  induction n using toDigits.induct with
  | case1 n hn =>
    rw [toDigits, if_pos hn, List.mem_singleton] at h
    exact h ▸ isDigit_digit hn
  | case2 n hn ih =>
    rw [toDigits, if_neg hn, List.mem_append, List.mem_singleton] at h
    rcases h with h | rfl
    · exact ih h
    · exact isDigit_digit (Nat.mod_lt _ (by decide))

theorem number?_toDigits (n : Nat) : number? (toDigits n) = some n := by
  have h : (toDigits n).all isDigit = true :=
    List.all_eq_true.2 fun _ hc => isDigit_of_mem_toDigits hc
  simp [number?, h, toDigits_ne_nil, ofDigits_toDigits]

theorem ofDigits_zeros_append (k : Nat) (cs : List Char) :
    ofDigits (List.replicate k '0' ++ cs) = ofDigits cs := by
  have h : ofDigits (List.replicate k '0') = 0 := by
    induction k with
    | zero => rfl
    | succ k ih => rw [List.replicate_succ', ofDigits_concat, ih]; rfl
  rw [ofDigits_append, h]
  rfl

end RuleVerdict.Text
