import RuleVerdict.Json.Reader
import RuleVerdict.Json.Writer
import RuleVerdict.Proofs.Binary64.Decimals

/-!
# Numbers in JSON

The digits of a number are put around a point or before an exponent, and in either form they have
the value that they had before. What is written is a number as JSON allows it, with a point or an
exponent whenever it stands for a binary number, and the reader finds all its parts again. The
nearest binary number to what is written is the one that was written.

* `nearest?_ofBinary64`: a finite binary number is the one nearest to how it is written.
* `readNumber_renderNumber`: a valid number is read from its text.
-/

namespace RuleVerdict

open Text

namespace JsonNumber

/-- One digit or more. -/
def IsDigits (cs : List Char) : Prop := cs ≠ [] ∧ ∀ c ∈ cs, isDigit c = true

/-- A number as JSON allows it: zero is the only one that begins with the digit zero. -/
structure Valid (n : JsonNumber) : Prop where
  whole : IsDigits n.whole
  leading : ∀ cs, n.whole = '0' :: cs → cs = []
  fraction : ∀ ds, n.fraction = some ds → IsDigits ds
  exponent : ∀ neg ds, n.exponent = some (neg, ds) → IsDigits ds

/-- The decimal number that is written. -/
def toDecimal (n : JsonNumber) : Decimal :=
  let fraction := n.fraction.getD []
  ⟨n.negative, ofDigits (n.whole ++ fraction), n.power - (fraction.length : Int)⟩

/-- The binary number nearest to what is written, unless that is infinite. -/
def nearest? (n : JsonNumber) : Option Binary64 :=
  let x := Binary64.ofDecimal n.toDecimal
  if x.isInfinite then none else some x

theorem isDigits_toDigits (n : Nat) : IsDigits (toDigits n) :=
  ⟨toDigits_ne_nil n, fun _ hc => isDigit_of_mem_toDigits hc⟩

theorem IsDigits.append_zeros {cs : List Char} (h : IsDigits cs) (k : Nat) :
    IsDigits (cs ++ List.replicate k '0') := by
  refine ⟨by simp [h.1], fun c hc => ?_⟩
  rcases List.mem_append.mp hc with hc | hc
  · exact h.2 c hc
  · rw [List.eq_of_mem_replicate hc]
    rfl

theorem IsDigits.zeros_append {cs : List Char} (h : IsDigits cs) (k : Nat) :
    IsDigits (List.replicate k '0' ++ cs) := by
  refine ⟨by simp [h.1], fun c hc => ?_⟩
  rcases List.mem_append.mp hc with hc | hc
  · rw [List.eq_of_mem_replicate hc]
    rfl
  · exact h.2 c hc

/-- The digits of a number other than zero do not begin with zero. -/
theorem toDigits_ne_zero_cons {n : Nat} (h : n ≠ 0) (cs : List Char) : toDigits n ≠ '0' :: cs := by
  induction n using toDigits.induct generalizing cs with
  | case1 n hn =>
    intro hDigits
    rw [toDigits, if_pos hn] at hDigits
    have hDigit : digit n = '0' := (List.cons.inj hDigits).1
    have hValue := congrArg digitValue hDigit
    rw [digitValue_digit hn] at hValue
    exact h hValue
  | case2 n hn ih =>
    intro hDigits
    rw [toDigits, if_neg hn] at hDigits
    obtain ⟨d, ds, hRest⟩ := List.exists_cons_of_ne_nil (toDigits_ne_nil (n / 10))
    rw [hRest, List.cons_append] at hDigits
    obtain ⟨rfl, -⟩ := List.cons.inj hDigits
    exact ih (by omega) ds hRest

theorem valid_of_toDigits (neg : Bool) (n : Nat) : Valid ⟨neg, toDigits n, none, none⟩ := by
  refine ⟨isDigits_toDigits n, fun cs hcs => ?_, nofun, nofun⟩
  by_cases hn : n = 0
  · have hZero : toDigits n = ['0'] := by rw [hn, toDigits]; rfl
    exact (List.cons.inj (hcs.symm.trans hZero)).2
  · exact absurd hcs (toDigits_ne_zero_cons hn cs)

theorem valid_natural (n : Nat) : (natural n).Valid := valid_of_toDigits false n

theorem valid_integer (i : Int) : (integer i).Valid := valid_of_toDigits _ i.natAbs

/-! ## Where the point is -/

/-- The ways in which digits are written. -/
inductive Placed (neg : Bool) (ds : List Char) (place : Int) : JsonNumber → Prop
  | whole (k : Nat) (h : place = ds.length + k) :
      Placed neg ds place ⟨neg, ds ++ List.replicate k '0', some ['0'], none⟩
  | around (us vs : List Char) (hus : us ≠ []) (hvs : vs ≠ []) (h : ds = us ++ vs)
      (hp : place = us.length) : Placed neg ds place ⟨neg, us, some vs, none⟩
  | behind (k : Nat) (h : place = -(k : Int)) :
      Placed neg ds place ⟨neg, ['0'], some (List.replicate k '0' ++ ds), none⟩
  | scaled (d : Char) (es : List Char) (hes : es ≠ []) (h : ds = d :: es) :
      Placed neg ds place
        ⟨neg, [d], some es, some (decide (place - 1 < 0), toDigits (place - 1).natAbs)⟩
  | single (d : Char) (h : ds = [d]) :
      Placed neg ds place
        ⟨neg, [d], none, some (decide (place - 1 < 0), toDigits (place - 1).natAbs)⟩

theorem placed_ofPlaces (neg : Bool) {ds : List Char} (h : ds ≠ []) (place : Int) :
    Placed neg ds place (ofPlaces neg ds place) := by
  unfold ofPlaces
  split
  · next hp =>
    have hPlace : (place.toNat : Int) = place := Int.toNat_of_nonneg (by omega)
    dsimp only
    split
    · next hle => exact .whole _ (by omega)
    · next hlt =>
      have hTake : (ds.take place.toNat).length = place.toNat := by
        rw [List.length_take]
        omega
      refine .around _ _ ?_ ?_ (List.take_append_drop ..).symm (by omega)
      · exact List.ne_nil_of_length_pos (by omega)
      · exact List.ne_nil_of_length_pos (by rw [List.length_drop]; omega)
  split
  · next hp => exact .behind _ (by omega)
  · match ds, h with
    | [d], _ => exact .single d rfl
    | d :: e :: es, _ => exact .scaled d (e :: es) (List.cons_ne_nil e es) rfl

variable {neg : Bool} {ds : List Char} {place : Int} {n : JsonNumber}

theorem Placed.valid (h : Placed neg ds place n) (hds : IsDigits ds)
    (hLead : ∀ cs, ds ≠ '0' :: cs) : n.Valid := by
  have hZero : IsDigits ['0'] := ⟨by simp, by simp [isDigit]⟩
  cases h with
  | whole k h =>
    refine ⟨hds.append_zeros k, fun cs hcs => ?_, fun _ hf => Option.some.inj hf ▸ hZero, nofun⟩
    obtain ⟨d, es, rfl⟩ := List.exists_cons_of_ne_nil hds.1
    obtain ⟨rfl, -⟩ := List.cons.inj hcs
    exact absurd rfl (hLead es)
  | around us vs hus hvs h hp =>
    subst h
    refine ⟨⟨hus, fun c hc => hds.2 c (List.mem_append_left _ hc)⟩, fun cs hcs => ?_,
      fun _ hf => ?_, nofun⟩
    · obtain rfl : us = '0' :: cs := hcs
      exact absurd rfl (hLead (cs ++ vs))
    · obtain rfl := Option.some.inj hf
      exact ⟨hvs, fun c hc => hds.2 c (List.mem_append_right _ hc)⟩
  | behind k h =>
    exact ⟨hZero, fun cs hcs => (List.cons.inj hcs).2.symm,
      fun _ hf => Option.some.inj hf ▸ hds.zeros_append k, nofun⟩
  | scaled d es hes h =>
    subst h
    refine ⟨⟨by simp, fun c hc => ?_⟩, fun cs hcs => (List.cons.inj hcs).2.symm, fun _ hf => ?_,
      fun _ _ he => ?_⟩
    · exact List.mem_singleton.mp hc ▸ hds.2 d List.mem_cons_self
    · obtain rfl := Option.some.inj hf
      exact ⟨hes, fun c hc => hds.2 c (List.mem_cons_of_mem d hc)⟩
    · cases he
      exact isDigits_toDigits _
  | single d h =>
    subst h
    refine ⟨hds, fun cs hcs => (List.cons.inj hcs).2.symm, nofun, fun _ _ he => ?_⟩
    cases he
    exact isDigits_toDigits _

/-- With a point or an exponent a number is no integer. -/
theorem Placed.toInt?_eq_none (h : Placed neg ds place n) : n.toInt? = none := by
  cases h <;> simp [toInt?]

theorem ofDigits_append_zeros (ds : List Char) (k : Nat) :
    ofDigits (ds ++ List.replicate k '0') = ofDigits ds * Decimal.placeWeight k := by
  induction k with
  | zero =>
    have hOne : Decimal.placeWeight 0 = 1 := rfl
    rw [List.replicate_zero, List.append_nil, hOne, Nat.mul_one]
  | succ k ih =>
    have hZero : digitValue '0' = 0 := rfl
    rw [List.replicate_succ', ← List.append_assoc, ofDigits_concat, ih, hZero,
      Binary64.placeWeight_succ, Nat.mul_assoc, Nat.add_zero]

/-- A signed exponent has its value. -/
theorem signed_toDigits (i : Int) :
    (if decide (i < 0) = true then -(ofDigits (toDigits i.natAbs) : Int)
      else ofDigits (toDigits i.natAbs)) = i := by
  simp only [ofDigits_toDigits, decide_eq_true_eq]
  split <;> omega

/-- Wherever the point is, the number is what its digits and its place say. -/
theorem Placed.ofDecimal_toDecimal (h : Placed neg ds place n) :
    Binary64.ofDecimal n.toDecimal =
      Binary64.ofDecimal ⟨neg, ofDigits ds, place - ds.length⟩ := by
  cases h with
  | whole k h =>
    have hDigits : ofDigits (ds ++ List.replicate k '0' ++ ['0']) =
        ofDigits ds * Decimal.placeWeight (k + 1) := by
      rw [List.append_assoc, ← List.replicate_succ', ofDigits_append_zeros]
    have hExponent : (0 : Int) - (1 : Nat) + (k + 1 : Nat) = place - ds.length := by omega
    simp only [toDecimal, power, Option.getD_some, List.length_singleton]
    rw [hDigits, Binary64.ofDecimal_mul_placeWeight, hExponent]
  | around us vs hus hvs h hp =>
    have hExponent : (0 : Int) - vs.length = place - ds.length := by
      rw [h, hp, List.length_append]
      omega
    simp only [toDecimal, power, Option.getD_some, h, hp]
    rw [← h, ← hp, hExponent]
  | behind k h =>
    have hDigits : ofDigits (['0'] ++ (List.replicate k '0' ++ ds)) = ofDigits ds :=
      ofDigits_zeros_append (k + 1) ds
    have hExponent : (0 : Int) - (List.replicate k '0' ++ ds).length = place - ds.length := by
      rw [h, List.length_append, List.length_replicate]
      omega
    simp only [toDecimal, power, Option.getD_some]
    rw [hDigits, hExponent]
  | scaled d es hes h =>
    have hExponent : place - 1 - (es.length : Int) = place - ds.length := by
      rw [h, List.length_cons]
      omega
    simp only [toDecimal, power, Option.getD_some, signed_toDigits]
    rw [hExponent, h]
    rfl
  | single d h =>
    have hExponent : place - 1 - (([] : List Char).length : Int) = place - ds.length := by
      rw [h, List.length_singleton, List.length_nil]
      omega
    simp only [toDecimal, power, Option.getD_none, signed_toDigits, List.append_nil]
    rw [hExponent, h]

/-! ## Binary numbers -/

variable {x : Binary64}

theorem placed_ofBinary64 (h : x.magnitude ≠ 0) :
    Placed x.negative (toDigits (x.shortest .even).digits)
      ((toDigits (x.shortest .even).digits).length + (x.shortest .even).exponent)
      (ofBinary64 x) := by
  rw [ofBinary64, if_neg h]
  exact placed_ofPlaces _ (toDigits_ne_nil _) _

theorem valid_ofBinary64 (hx : x.isFinite = true) : (ofBinary64 x).Valid := by
  by_cases h : x.magnitude = 0
  · rw [ofBinary64, if_pos h]
    have hZero : IsDigits ['0'] := ⟨by simp, by simp [isDigit]⟩
    exact ⟨hZero, fun cs hcs => (List.cons.inj hcs).2.symm,
      fun _ hf => Option.some.inj hf ▸ hZero, nofun⟩
  · have hDigits := Binary64.digits_shortest_ne_zero .even hx h
    exact (placed_ofBinary64 h).valid (isDigits_toDigits _) (toDigits_ne_zero_cons hDigits)

theorem toInt?_ofBinary64 (x : Binary64) : (ofBinary64 x).toInt? = none := by
  by_cases h : x.magnitude = 0
  · simp [ofBinary64, h, toInt?]
  · exact (placed_ofBinary64 h).toInt?_eq_none

theorem ofDecimal_ofBinary64 (hx : x.isFinite = true) :
    Binary64.ofDecimal (ofBinary64 x).toDecimal = x := by
  by_cases h : x.magnitude = 0
  · have hDigits : ofDigits (['0'] ++ ['0']) = 0 := rfl
    have hSelf := Binary64.ofMagnitude_magnitude x
    rw [h] at hSelf
    simp only [ofBinary64, if_pos h, toDecimal, power, Option.getD_some]
    rw [hDigits, Binary64.ofDecimal_zero, hSelf]
  · have hExponent : ((toDigits (x.shortest .even).digits).length : Int) +
        (x.shortest .even).exponent - (toDigits (x.shortest .even).digits).length =
          (x.shortest .even).exponent := by omega
    rw [(placed_ofBinary64 h).ofDecimal_toDecimal, ofDigits_toDigits, hExponent,
      Binary64.ofDecimal_shortest .even hx]

/-- A finite binary number is the one nearest to how it is written. -/
theorem nearest?_ofBinary64 (hx : x.isFinite = true) : (ofBinary64 x).nearest? = some x := by
  have hFinite := Binary64.magnitude_lt_of_isFinite hx
  have hNot : x.isInfinite = false := decide_eq_false (by omega)
  rw [nearest?, ofDecimal_ofBinary64 hx, hNot]
  rfl

end JsonNumber

/-! ## Reading a number -/

namespace Json

open JsonNumber

/-- No digit comes next. -/
def NoDigit (cs : List Char) : Prop := ∀ c rest, cs = c :: rest → isDigit c = false

/-- What may follow a value inside another one, or nothing. -/
def Ends (cs : List Char) : Prop := ∀ c rest, cs = c :: rest → c = ',' ∨ c = ']' ∨ c = '\x7d'

theorem ends_nil : Ends [] := nofun

theorem ends_cons {c : Char} (h : c = ',' ∨ c = ']' ∨ c = '\x7d') (cs : List Char) :
    Ends (c :: cs) := by
  rintro _ _ ⟨⟩
  exact h

theorem noDigit_cons {c : Char} (h : isDigit c = false) (cs : List Char) : NoDigit (c :: cs) := by
  rintro _ _ ⟨⟩
  exact h

variable {ds rest : List Char}

theorem Ends.noDigit (h : Ends rest) : NoDigit rest := by
  intro c cs hcs
  rcases h c cs hcs with rfl | rfl | rfl <;> rfl

theorem takeWhile_and_dropWhile (hds : ∀ c ∈ ds, isDigit c = true) (h : NoDigit rest) :
    (ds ++ rest).takeWhile isDigit = ds ∧ (ds ++ rest).dropWhile isDigit = rest := by
  rw [List.takeWhile_append_of_pos hds, List.dropWhile_append_of_pos hds]
  cases rest with
  | nil => simp
  | cons c cs => simp [h c cs rfl]

theorem readDigits_append (hds : IsDigits ds) (h : NoDigit rest) :
    readDigits (ds ++ rest) = some (ds, rest) := by
  obtain ⟨hTake, hDrop⟩ := takeWhile_and_dropWhile hds.2 h
  rw [readDigits]
  simp [hTake, hDrop, hds.1]

theorem readWhole_append (hds : IsDigits ds) (hLead : ∀ cs, ds = '0' :: cs → cs = [])
    (h : NoDigit rest) : readWhole (ds ++ rest) = some (ds, rest) := by
  obtain ⟨hTake, hDrop⟩ := takeWhile_and_dropWhile hds.2 h
  obtain ⟨d, es, rfl⟩ := List.exists_cons_of_ne_nil hds.1
  rw [List.cons_append] at hTake hDrop ⊢
  unfold readWhole
  split
  · next r hr =>
    obtain ⟨rfl, rfl⟩ := List.cons.inj hr
    obtain rfl := hLead es rfl
    have hNone : rest.takeWhile isDigit = [] := by
      cases rest with
      | nil => rfl
      | cons c cs => rw [List.takeWhile_cons_of_neg (by simp [h c cs rfl])]
    simp [hNone]
  · simp [hTake, hDrop]

/-- The text of a fraction. -/
def fractionChars : Option (List Char) → List Char
  | none => []
  | some ds => '.' :: ds

/-- The text of an exponent. -/
def exponentChars : Option (Bool × List Char) → List Char
  | none => []
  | some (neg, ds) => 'e' :: (if neg then '-' else '+') :: ds

theorem renderNumber_eq (n : JsonNumber) :
    renderNumber n = (if n.negative then ['-'] else []) ++
      (n.whole ++ (fractionChars n.fraction ++ exponentChars n.exponent)) := by
  rw [← List.append_assoc, ← List.append_assoc]
  rfl

theorem readExponent_append {e : Option (Bool × List Char)}
    (he : ∀ neg ds, e = some (neg, ds) → IsDigits ds) (h : Ends rest) :
    readExponent (exponentChars e ++ rest) = some (e, rest) := by
  match e, he with
  | none, _ =>
    cases rest with
    | nil => rfl
    | cons c cs =>
      have hc : ¬(c = 'e' ∨ c = 'E') := by
        rcases h c cs rfl with rfl | rfl | rfl <;> decide
      simp [exponentChars, readExponent, hc]
  | some (true, ds), he =>
    have hds := readDigits_append (he true ds rfl) h.noDigit
    simp [exponentChars, readExponent, hds]
  | some (false, ds), he =>
    have hds := readDigits_append (he false ds rfl) h.noDigit
    simp [exponentChars, readExponent, hds]

/-- Behind the digits before the point comes no other digit. -/
theorem noDigit_exponentChars (e : Option (Bool × List Char)) (h : Ends rest) :
    NoDigit (exponentChars e ++ rest) := by
  cases e with
  | none => exact h.noDigit
  | some e => exact noDigit_cons rfl _

theorem readFraction_append {f : Option (List Char)} (hf : ∀ ds, f = some ds → IsDigits ds)
    (e : Option (Bool × List Char)) (h : Ends rest) :
    readFraction (fractionChars f ++ (exponentChars e ++ rest)) =
      some (f, exponentChars e ++ rest) := by
  cases f with
  | some ds =>
    have hds := readDigits_append (hf ds rfl) (noDigit_exponentChars e h)
    simp [fractionChars, readFraction, hds]
  | none =>
    have hDot : ∀ cs, exponentChars e ++ rest ≠ '.' :: cs := by
      intro cs hcs
      cases e with
      | none => rcases h _ _ hcs with hc | hc | hc <;> cases hc
      | some e => cases hcs
    rw [fractionChars, List.nil_append]
    unfold readFraction
    split
    · next cs hcs => exact absurd hcs (hDot cs)
    · rfl

/-- A valid number is read from its text. -/
theorem readNumber_renderNumber {n : JsonNumber} (hn : n.Valid) (h : Ends rest) :
    readNumber (renderNumber n ++ rest) = some (n, rest) := by
  obtain ⟨neg, whole, fraction, exponent⟩ := n
  obtain ⟨hWhole, hLead, hFraction, hExponent⟩ := hn
  have hRest : NoDigit (fractionChars fraction ++ (exponentChars exponent ++ rest)) := by
    cases fraction with
    | none => exact noDigit_exponentChars exponent h
    | some ds => exact noDigit_cons rfl _
  have hUnsigned : readUnsigned neg
      (whole ++ (fractionChars fraction ++ (exponentChars exponent ++ rest))) =
        some (⟨neg, whole, fraction, exponent⟩, rest) := by
    simp [readUnsigned, readWhole_append hWhole hLead hRest,
      readFraction_append hFraction exponent h, readExponent_append hExponent h]
  rw [renderNumber_eq]
  simp only [List.append_assoc]
  cases neg with
  | true => simpa [readNumber] using hUnsigned
  | false =>
    obtain ⟨d, es, rfl⟩ := List.exists_cons_of_ne_nil hWhole.1
    have hMinus : d ≠ '-' := by
      rintro rfl
      have hDigit := hWhole.2 '-' List.mem_cons_self
      revert hDigit
      decide
    simpa [readNumber, hMinus] using hUnsigned

end Json

end RuleVerdict
