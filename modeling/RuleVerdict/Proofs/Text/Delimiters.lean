import RuleVerdict.Binary64.Decimal

/-!
# Readers that stop at a delimiter

A reader takes the beginning of a text and leaves the rest. A number goes on as long as it can, so
that it ends only where a character comes that is in no number: read in front of such a delimiter
it is what it is alone, and it is none there if it is none alone.

* `StopsBefore.bind`: readers one after the other.
* `stopsBefore_readUnsigned`: decimal numbers.
-/

namespace RuleVerdict.Text

/-- The characters that may follow a number. -/
def delimiters : List Char := [' ', '\t', ',', ']', ')', '\x7d']

/-- A text that begins with a delimiter, or nothing. -/
def Delimited (cs : List Char) : Prop := ∀ c rest, cs = c :: rest → c ∈ delimiters

/-- The reader takes from a text the same with the tail behind it, and leaves the tail. -/
def StopsBefore {α : Type} (tail : List Char) (read : List Char → Option (α × List Char)) : Prop :=
  ∀ cs, read (cs ++ tail) = (read cs).map fun p => (p.1, p.2 ++ tail)

theorem delimited_cons {c : Char} (h : c ∈ delimiters) (cs : List Char) : Delimited (c :: cs) := by
  rintro _ _ ⟨⟩
  exact h

/-- What holds of each delimiter, one after the other. -/
theorem forall_mem_delimiters {p : Char → Prop}
    (h : p ' ' ∧ p '\t' ∧ p ',' ∧ p ']' ∧ p ')' ∧ p '\x7d') : ∀ d ∈ delimiters, p d := by
  simpa [delimiters] using h

theorem Delimited.ne {tail : List Char} (h : Delimited tail) {c : Char} (hc : c ∉ delimiters)
    (cs : List Char) : tail ≠ c :: cs := fun hTail => hc (h c cs hTail)

theorem isDigit_of_mem_delimiters : ∀ c ∈ delimiters, isDigit c = false :=
  forall_mem_delimiters (by decide)

variable {α β : Type} {tail : List Char}

theorem StopsBefore.bind {first : List Char → Option (α × List Char)}
    {next : α → List Char → Option (β × List Char)} (hFirst : StopsBefore tail first)
    (hNext : ∀ a, StopsBefore tail (next a)) :
    StopsBefore tail fun cs => (first cs).bind fun p => next p.1 p.2 := by
  intro cs
  dsimp only
  rw [hFirst cs]
  cases first cs with
  | none => rfl
  | some p => exact hNext p.1 p.2

theorem StopsBefore.map {read : List Char → Option (α × List Char)} (h : StopsBefore tail read)
    (f : α → β) : StopsBefore tail fun cs => (read cs).map fun p => (f p.1, p.2) := by
  intro cs
  dsimp only
  rw [h cs, Option.map_map, Option.map_map]
  rfl

theorem stopsBefore_some (a : α) : StopsBefore tail fun cs => some (a, cs) := fun _ => rfl

/-- A reader whose first character decides how it goes on. -/
theorem StopsBefore.byHead {p : Char → Prop}
    {read special other : List Char → Option (α × List Char)} (h : Delimited tail)
    (hDelimiters : ∀ d ∈ delimiters, ¬p d)
    (hSpecial : ∀ c cs, p c → read (c :: cs) = special cs)
    (hOther : ∀ cs, (∀ c rest, cs = c :: rest → ¬p c) → read cs = other cs)
    (hStops : StopsBefore tail special) (hStops' : StopsBefore tail other) :
    StopsBefore tail read := by
  intro cs
  cases cs with
  | nil =>
    have hTail : ∀ c rest, tail = c :: rest → ¬p c := fun c rest hc => hDelimiters c (h c rest hc)
    rw [List.nil_append, hOther tail hTail, hOther [] nofun]
    exact hStops' []
  | cons c cs =>
    by_cases hc : p c
    · rw [List.cons_append, hSpecial c _ hc, hSpecial c _ hc]
      exact hStops cs
    · have hHead : ∀ ds d rest, c :: ds = d :: rest → ¬p d := by
        rintro _ _ _ ⟨⟩
        exact hc
      rw [List.cons_append, hOther _ (hHead _), hOther _ (hHead _)]
      exact hStops' (c :: cs)

theorem takeWhile_append_of_delimited (h : Delimited tail) (cs : List Char) :
    (cs ++ tail).takeWhile isDigit = cs.takeWhile isDigit ∧
      (cs ++ tail).dropWhile isDigit = cs.dropWhile isDigit ++ tail := by
  induction cs with
  | nil =>
    cases tail with
    | nil => exact ⟨rfl, rfl⟩
    | cons c cs =>
      have hDigit := isDigit_of_mem_delimiters c (h c cs rfl)
      exact ⟨List.takeWhile_cons_of_neg (by simp [hDigit]),
        List.dropWhile_cons_of_neg (by simp [hDigit])⟩
  | cons c cs ih =>
    rw [List.cons_append]
    cases hDigit : isDigit c <;> simp [hDigit, ih]

/-! ## Decimal numbers -/

/-- The sign of an exponent and what follows it. -/
def splitSign : List Char → Bool × List Char
  | '-' :: cs => (true, cs)
  | '+' :: cs => (false, cs)
  | cs => (false, cs)

theorem splitSign_of_unsigned {cs : List Char} (hMinus : ∀ rest, cs ≠ '-' :: rest)
    (hPlus : ∀ rest, cs ≠ '+' :: rest) : splitSign cs = (false, cs) := by
  unfold splitSign
  split
  · next rest => exact absurd rfl (hMinus rest)
  · next rest => exact absurd rfl (hPlus rest)
  · rfl

theorem splitSign_append (h : Delimited tail) (cs : List Char) :
    splitSign (cs ++ tail) = ((splitSign cs).1, (splitSign cs).2 ++ tail) := by
  cases cs with
  | nil => exact splitSign_of_unsigned (h.ne (by decide)) (h.ne (by decide))
  | cons c cs =>
    by_cases hMinus : c = '-'
    · subst hMinus
      rfl
    by_cases hPlus : c = '+'
    · subst hPlus
      rfl
    have hUnsigned : ∀ ds, splitSign (c :: ds) = (false, c :: ds) := fun ds =>
      splitSign_of_unsigned (fun _ hds => hMinus (List.cons.inj hds).1)
        fun _ hds => hPlus (List.cons.inj hds).1
    rw [List.cons_append, hUnsigned, hUnsigned, List.cons_append]

theorem stopsBefore_splitSign (h : Delimited tail) :
    StopsBefore tail fun cs => some (splitSign cs) :=
  fun cs => congrArg some (splitSign_append h cs)

/-- The digits of an exponent behind its sign. -/
def readSigned (neg : Bool) (cs : List Char) : Option (Int × List Char) :=
  if (cs.takeWhile isDigit).isEmpty then none
  else
    let n : Int := ofDigits (cs.takeWhile isDigit)
    some (if neg then -n else n, cs.dropWhile isDigit)

theorem stopsBefore_readSigned (h : Delimited tail) (neg : Bool) :
    StopsBefore tail (readSigned neg) := by
  intro cs
  obtain ⟨hTake, hDrop⟩ := takeWhile_append_of_delimited h cs
  rw [readSigned, readSigned, hTake, hDrop]
  split <;> rfl

/-- The marker of an exponent. -/
def IsMarker (c : Char) : Prop := c = 'e' ∨ c = 'E'

theorem not_isMarker_of_mem_delimiters : ∀ d ∈ delimiters, ¬IsMarker d :=
  forall_mem_delimiters (by simp [IsMarker])

theorem readExponent_of_marker {c : Char} (cs : List Char) (h : IsMarker c) :
    Decimal.readExponent (c :: cs) = readSigned (splitSign cs).1 (splitSign cs).2 := by
  unfold Decimal.readExponent
  exact if_pos h

theorem readExponent_of_not_marker (cs : List Char) (h : ∀ c rest, cs = c :: rest → ¬IsMarker c) :
    Decimal.readExponent cs = some (0, cs) := by
  cases cs with
  | nil => rfl
  | cons c cs =>
    unfold Decimal.readExponent
    exact if_neg (h c cs rfl)

theorem stopsBefore_readExponent (h : Delimited tail) :
    StopsBefore tail Decimal.readExponent :=
  .byHead h not_isMarker_of_mem_delimiters (fun _ => readExponent_of_marker)
    readExponent_of_not_marker
    ((stopsBefore_splitSign h).bind (stopsBefore_readSigned h)) (stopsBefore_some 0)

theorem readFraction_of_not_point (cs : List Char) (h : ∀ c rest, cs = c :: rest → c ≠ '.') :
    Decimal.readFraction cs = ([], cs) := by
  unfold Decimal.readFraction
  split
  · next rest => exact absurd rfl (h _ rest rfl)
  · rfl

theorem stopsBefore_readFraction (h : Delimited tail) :
    StopsBefore tail fun cs => some (Decimal.readFraction cs) := by
  have hDigits : StopsBefore tail fun cs => some (cs.takeWhile isDigit, cs.dropWhile isDigit) := by
    intro cs
    obtain ⟨hTake, hDrop⟩ := takeWhile_append_of_delimited h cs
    dsimp only
    rw [hTake, hDrop]
    rfl
  refine .byHead (p := (· = '.')) h (forall_mem_delimiters (by decide)) ?_ ?_ hDigits
    (stopsBefore_some [])
  · rintro _ cs rfl
    rfl
  · exact fun cs hcs => congrArg some (readFraction_of_not_point cs hcs)

theorem stopsBefore_readUnsigned (h : Delimited tail) (neg : Bool) :
    StopsBefore tail (Decimal.readUnsigned neg) := by
  intro cs
  obtain ⟨hTake, hDrop⟩ := takeWhile_append_of_delimited h cs
  have hFraction := stopsBefore_readFraction h (cs.dropWhile isDigit)
  unfold Decimal.readUnsigned
  dsimp only at hFraction ⊢
  rw [hTake, hDrop, Option.some.inj hFraction]
  split
  · rfl
  · rw [stopsBefore_readExponent h, Option.map_map, Option.map_map]
    rfl

/-! ## What is left -/

theorem splitSign_suffix (cs : List Char) : (splitSign cs).2 <:+ cs := by
  unfold splitSign
  split
  · exact List.suffix_cons ..
  · exact List.suffix_cons ..
  · exact List.suffix_refl cs

theorem suffix_of_readExponent {cs rest : List Char} {e : Int}
    (h : Decimal.readExponent cs = some (e, rest)) : rest <:+ cs := by
  by_cases hMark : ∃ c ds, cs = c :: ds ∧ IsMarker c
  · obtain ⟨c, ds, rfl, hc⟩ := hMark
    rw [readExponent_of_marker ds hc, readSigned] at h
    split at h
    · cases h
    · obtain ⟨-, rfl⟩ := Prod.mk.inj (Option.some.inj h)
      exact (List.dropWhile_suffix _).trans ((splitSign_suffix ds).trans (List.suffix_cons c ds))
  · rw [readExponent_of_not_marker cs fun c ds hcs hc => hMark ⟨c, ds, hcs, hc⟩] at h
    obtain ⟨-, rfl⟩ := Prod.mk.inj (Option.some.inj h)
    exact List.suffix_refl cs

theorem readFraction_suffix (cs : List Char) : (Decimal.readFraction cs).2 <:+ cs := by
  unfold Decimal.readFraction
  split
  · exact (List.dropWhile_suffix _).trans (List.suffix_cons ..)
  · exact List.suffix_refl cs

theorem suffix_of_readUnsigned {neg : Bool} {cs rest : List Char} {d : Decimal}
    (h : Decimal.readUnsigned neg cs = some (d, rest)) : rest <:+ cs := by
  unfold Decimal.readUnsigned at h
  dsimp only at h
  split at h
  · cases h
  · obtain ⟨⟨e, last⟩, hRead, hEq⟩ := Option.map_eq_some_iff.mp h
    obtain ⟨-, rfl⟩ := Prod.mk.inj hEq
    exact (suffix_of_readExponent hRead).trans
      ((readFraction_suffix _).trans (List.dropWhile_suffix _))

end RuleVerdict.Text
