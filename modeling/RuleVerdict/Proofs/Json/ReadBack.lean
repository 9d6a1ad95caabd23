import RuleVerdict.Proofs.Json.Numbers

/-!
# Reading what was written

The reader finds a value again in its compact text. That holds for every value that can be written
at all: each of its texts is there, and each of its numbers is one that JSON allows
(`Json.Writable`). The text of a value says where it ends, so what comes behind it is left over,
unless that is a number and its digits go on.

* `readText_quote`: a text is read from between its quotes.
* `readsBack_of_writable`: a value is read from its text, in no more steps than there are
  characters.
* `read?_render`: a value is read back.
-/

namespace RuleVerdict.Json

open Text JsonNumber

/-! ## Texts -/

/-- The characters that have a letter of their own behind a backslash, with that letter. -/
def lettered : List (Char × Char) :=
  [('"', '"'), ('\\', '\\'), ('\x08', 'b'), ('\x0c', 'f'), ('\n', 'n'), ('\r', 'r'), ('\t', 't')]

theorem escape_of_mem_lettered : ∀ p ∈ lettered,
    p.2 ≠ 'u' ∧ escape p.1 = ['\\', p.2] ∧ shortEscape? p.2 = some p.1 := by
  decide

theorem escape_of_not_lettered {c : Char} (h : ∀ p ∈ lettered, c ≠ p.1) :
    escape c =
      if c < ' ' then ['\\', 'u', '0', '0', hexChar (c.toNat / 16), hexChar (c.toNat % 16)]
      else [c] := by
  simp only [lettered, List.forall_mem_cons] at h
  simp [escape, h]

theorem hexDigit?_hexChar {n : Nat} (h : n < 16) : hexDigit? (hexChar n) = some n := by
  have hAll : ∀ n : Fin 16, hexDigit? (hexChar n) = some n.val := by decide
  exact hAll ⟨n, h⟩

theorem toNat_lt_of_lt_space {c : Char} (h : c < ' ') : c.toNat < 32 := h

theorem hexCode?_control {c : Char} (h : c < ' ') :
    hexCode? '0' '0' (hexChar (c.toNat / 16)) (hexChar (c.toNat % 16)) = some c.toNat := by
  have hc := toNat_lt_of_lt_space h
  have hZero : hexDigit? '0' = some 0 := rfl
  have hHigh := hexDigit?_hexChar (n := c.toNat / 16) (by omega)
  have hLow := hexDigit?_hexChar (n := c.toNat % 16) (by omega)
  have hSum : ((0 * 16 + 0) * 16 + c.toNat / 16) * 16 + c.toNat % 16 = c.toNat := by omega
  rw [hexCode?, hZero, hHigh, hLow]
  exact congrArg some hSum

/-- A code that is no half of a pair stands for its character, whatever comes next. -/
theorem combine_code_cons {n : Nat} (h : n < 0xD800) (us : List TextUnit) :
    combine (.code n :: us) = (combine us).map (Char.ofNat n :: ·) := by
  have hHigh : ¬(0xD800 ≤ n ∧ n < 0xDC00) := by omega
  have hLow : ¬(0xDC00 ≤ n ∧ n < 0xE000) := by omega
  have hPair : ¬(0xD800 ≤ n ∧ n < 0xE000) := by omega
  match us with
  | [] => simp [combine, hPair]
  | .char c :: us => simp [combine, hPair]
  | .code m :: us => rw [combine, if_neg hHigh, if_neg hLow]

/-- What is written for a character is read as one part of the text, which stands for it. -/
theorem exists_unit (c : Char) : ∃ u : TextUnit,
    (∀ cs, textUnits (escape c ++ cs) = (textUnits cs).map fun p => (u :: p.1, p.2)) ∧
      ∀ us, combine (u :: us) = (combine us).map (c :: ·) := by
  have hChar : ∀ us, combine (.char c :: us) = (combine us).map (c :: ·) := fun us => by
    rw [combine]
  by_cases hLetter : ∃ p ∈ lettered, c = p.1
  · obtain ⟨p, hp, rfl⟩ := hLetter
    obtain ⟨hne, hEscape, hShort⟩ := escape_of_mem_lettered p hp
    refine ⟨.char p.1, fun cs => ?_, hChar⟩
    rw [hEscape]
    simp [textUnits, hne, hShort]
    cases textUnits cs <;> rfl
  simp only [not_exists, not_and] at hLetter
  have hEscape := escape_of_not_lettered hLetter
  by_cases hControl : c < ' '
  · have hSmall := toNat_lt_of_lt_space hControl
    refine ⟨.code c.toNat, fun cs => ?_, fun us => ?_⟩
    · rw [hEscape, if_pos hControl]
      simp [textUnits, hexCode?_control hControl]
      cases textUnits cs <;> rfl
    · rw [combine_code_cons (by omega), Char.ofNat_toNat]
  · have hQuote : c ≠ '"' := hLetter ('"', '"') (by decide)
    have hBack : c ≠ '\\' := hLetter ('\\', '\\') (by decide)
    refine ⟨.char c, fun cs => ?_, hChar⟩
    rw [hEscape, if_neg hControl]
    simp [textUnits, hBack, hControl]
    cases textUnits cs <;> rfl

theorem exists_units (cs rest : List Char) :
    ∃ us, textUnits (cs.flatMap escape ++ '"' :: rest) = some (us, rest) ∧
      combine us = some cs := by
  induction cs with
  | nil => exact ⟨[], by simp [textUnits], rfl⟩
  | cons c cs ih =>
    obtain ⟨us, hUnits, hCombine⟩ := ih
    obtain ⟨u, hUnit, hStands⟩ := exists_unit c
    refine ⟨u :: us, ?_, ?_⟩
    · rw [List.flatMap_cons, List.append_assoc, hUnit, hUnits]
      rfl
    · rw [hStands, hCombine]
      rfl

/-- A text is read from between its quotes. -/
theorem readText_quote (s : String) (rest : List Char) :
    readText (s.toList.flatMap escape ++ '"' :: rest) = some (some s, rest) := by
  obtain ⟨us, hUnits, hCombine⟩ := exists_units s.toList rest
  simp [readText, hUnits, hCombine]

theorem quote_append (s : String) (rest : List Char) :
    quote s ++ rest = '"' :: (s.toList.flatMap escape ++ '"' :: rest) := by
  simp [quote]

/-! ## Values -/

/-- A value that can be written: its texts are there, and its numbers are valid. -/
inductive Writable : Json → Prop
  | null : Writable .null
  | bool (b : Bool) : Writable (.bool b)
  | number {n : JsonNumber} (h : n.Valid) : Writable (.number n)
  | text (s : String) : Writable (.text (some s))
  | array {vs : List Json} (h : ∀ v ∈ vs, v.Writable) : Writable (.array vs)
  | object {ms : List (Option String × Json)} (hName : ∀ m ∈ ms, m.1.isSome = true)
      (h : ∀ m ∈ ms, m.2.Writable) : Writable (.object ms)

/-- The first character of a value: no blank, and not the end of an array. -/
def Opens (cs : List Char) : Prop := ∃ c r, cs = c :: r ∧ isGap c = false ∧ c ≠ ']'

theorem skipGap_of_not_gap {c : Char} (h : isGap c = false) (cs : List Char) :
    skipGap (c :: cs) = c :: cs := by
  rw [skipGap, List.dropWhile_cons, h]
  rfl

theorem Opens.skipGap_append {cs : List Char} (h : Opens cs) (rest : List Char) :
    skipGap (cs ++ rest) = cs ++ rest := by
  obtain ⟨c, r, rfl, hGap, -⟩ := h
  exact skipGap_of_not_gap hGap _

/-- The first character of a number. -/
theorem renderNumber_head {n : JsonNumber} (hn : n.Valid) :
    ∃ c cs, renderNumber n = c :: cs ∧ (c = '-' ∨ isDigit c = true) := by
  rw [renderNumber_eq]
  obtain ⟨d, ds, hWhole⟩ := List.exists_cons_of_ne_nil hn.whole.1
  have hDigit := hn.whole.2 d (by rw [hWhole]; exact List.mem_cons_self)
  rw [hWhole]
  cases n.negative with
  | true => exact ⟨'-', _, rfl, .inl rfl⟩
  | false => exact ⟨d, _, rfl, .inr hDigit⟩

/-- The first character of a number is none of those with which other values begin. -/
theorem ne_of_number_head {c : Char} (h : c = '-' ∨ isDigit c = true) :
    isGap c = false ∧ c ≠ ']' ∧ c ≠ '[' ∧ c ≠ '\x7b' ∧ c ≠ '"' ∧ c ≠ 'n' ∧ c ≠ 't' ∧ c ≠ 'f' := by
  rcases h with rfl | h
  · decide
  · have hne : ∀ d : Char, isDigit d = false → c ≠ d := by
      rintro d hd rfl
      rw [hd] at h
      cases h
    simp only [isGap, Bool.or_eq_false_iff, decide_eq_false_iff_not]
    exact ⟨⟨⟨⟨hne _ rfl, hne _ rfl⟩, hne _ rfl⟩, hne _ rfl⟩, hne _ rfl, hne _ rfl, hne _ rfl,
      hne _ rfl, hne _ rfl, hne _ rfl, hne _ rfl⟩

theorem readScalar_renderNumber {n : JsonNumber} (hn : n.Valid) {rest : List Char}
    (h : Ends rest) : readScalar (renderNumber n ++ rest) = some (.number n, rest) := by
  have hRead := readNumber_renderNumber hn h
  obtain ⟨c, cs, hcs, hHead⟩ := renderNumber_head hn
  obtain ⟨-, -, -, -, hQuote, hNull, hTrue, hFalse⟩ := ne_of_number_head hHead
  rw [hcs, List.cons_append] at hRead ⊢
  simp [readScalar, after?, hQuote, hNull.symm, hTrue.symm, hFalse.symm, hRead]

/-- A value that is neither array nor object. -/
theorem readValue_of_head {c : Char} (hGap : isGap c = false) (hArray : c ≠ '[')
    (hObject : c ≠ '\x7b') (steps : Nat) (cs : List Char) :
    readValue (steps + 1) (c :: cs) = readScalar (c :: cs) := by
  rw [readValue, skipGap_of_not_gap hGap]
  split
  · next h => exact absurd (List.cons.inj h).1 hArray
  · next h => exact absurd (List.cons.inj h).1 hObject
  · rfl

theorem Writable.opens {v : Json} (h : v.Writable) : Opens v.renderChars := by
  cases h with
  | null => exact ⟨'n', _, rfl, rfl, by decide⟩
  | bool b =>
    cases b with
    | true => exact ⟨'t', ['r', 'u', 'e'], by decide +kernel, rfl, by decide⟩
    | false => exact ⟨'f', ['a', 'l', 's', 'e'], by decide +kernel, rfl, by decide⟩
  | number hn =>
    obtain ⟨c, cs, hcs, hHead⟩ := renderNumber_head hn
    have hne := ne_of_number_head hHead
    exact ⟨c, cs, hcs, hne.1, hne.2.1⟩
  | text s => exact ⟨'"', _, rfl, rfl, by decide⟩
  | array h => exact ⟨'[', _, rfl, rfl, by decide⟩
  | object hName h => exact ⟨'\x7b', _, rfl, rfl, by decide⟩

/-- The value is read from its text, if there are as many steps as characters. -/
def ReadsBack (v : Json) : Prop :=
  ∀ steps rest, v.renderChars.length ≤ steps → Ends rest →
    readValue steps (v.renderChars ++ rest) = some (v, rest)

theorem renderItems_opens {v : Json} (vs : List Json) (h : v.Writable) :
    Opens (renderItems (v :: vs)) := by
  obtain ⟨c, r, hc, hGap, hEnd⟩ := h.opens
  cases vs with
  | nil => exact ⟨c, r, hc, hGap, hEnd⟩
  | cons w vs => exact ⟨c, _, by rw [renderItems, hc]; rfl, hGap, hEnd⟩

theorem readItems_renderItems {v : Json} {vs : List Json} (h : ∀ w ∈ v :: vs, w.ReadsBack)
    {steps : Nat} (hSteps : (renderItems (v :: vs)).length < steps) (rest : List Char) :
    readItems steps (renderItems (v :: vs) ++ ']' :: rest) = some (v :: vs, rest) := by
  induction vs generalizing v steps with
  | nil =>
    obtain ⟨steps, rfl⟩ : ∃ k, steps = k + 1 := ⟨steps - 1, by omega⟩
    have hv := h v List.mem_cons_self steps (']' :: rest)
      (by simpa [renderItems] using Nat.le_of_lt_succ hSteps) (ends_cons (by simp) rest)
    have hEnd : skipGap (']' :: rest) = ']' :: rest := skipGap_of_not_gap rfl rest
    simp [renderItems, readItems, hv, hEnd]
  | cons w vs ih =>
    obtain ⟨hv, hvs⟩ := List.forall_mem_cons.mp h
    obtain ⟨steps, rfl⟩ : ∃ k, steps = k + 1 := ⟨steps - 1, by omega⟩
    have hLength : (renderItems (v :: w :: vs)).length =
        v.renderChars.length + (renderItems (w :: vs)).length + 1 := by
      rw [renderItems, List.length_append, List.length_cons, Nat.add_assoc]
    have hFirst := hv steps (',' :: (renderItems (w :: vs) ++ ']' :: rest)) (by omega)
      (ends_cons (by simp) _)
    have hShort : (renderItems (w :: vs)).length < steps := by omega
    have hRest := ih hvs hShort
    have hComma : skipGap (',' :: (renderItems (w :: vs) ++ ']' :: rest)) =
        ',' :: (renderItems (w :: vs) ++ ']' :: rest) := skipGap_of_not_gap rfl _
    rw [renderItems, List.append_assoc, List.cons_append, readItems, hFirst]
    simp [hComma, hRest]

/-- A member is read up to the comma or the bracket behind it. -/
theorem readMembers_member (s : String) {v : Json} (hv : v.ReadsBack) {steps : Nat}
    (hSteps : v.renderChars.length ≤ steps) (cs : List Char) :
    (readMembers (steps + 1) (quote s ++ ':' :: (v.renderChars ++ '\x7d' :: cs)) =
        some ([(some s, v)], cs)) ∧
      readMembers (steps + 1) (quote s ++ ':' :: (v.renderChars ++ ',' :: cs)) =
        (readMembers steps cs).map fun p => ((some s, v) :: p.1, p.2) := by
  have hGap : ∀ {c : Char} (r : List Char), isGap c = false → skipGap (c :: r) = c :: r :=
    fun r h => skipGap_of_not_gap h r
  have hLast := hv steps ('\x7d' :: cs) hSteps (ends_cons (by simp) cs)
  have hMore := hv steps (',' :: cs) hSteps (ends_cons (by simp) cs)
  constructor
  · simp [quote_append, readMembers, hGap, readText_quote, hLast, isGap]
  · simp [quote_append, readMembers, hGap, readText_quote, hMore, isGap]

theorem readMembers_renderMembers {m : Option String × Json} {ms : List (Option String × Json)}
    (hName : ∀ m' ∈ m :: ms, m'.1.isSome = true) (hRead : ∀ m' ∈ m :: ms, m'.2.ReadsBack)
    {steps : Nat} (hSteps : (renderMembers (m :: ms)).length < steps) (rest : List Char) :
    readMembers steps (renderMembers (m :: ms) ++ '\x7d' :: rest) = some (m :: ms, rest) := by
  induction ms generalizing m steps with
  | nil =>
    obtain ⟨s, hs⟩ := Option.isSome_iff_exists.mp (hName m List.mem_cons_self)
    obtain ⟨name, v⟩ := m
    obtain rfl : name = some s := hs
    obtain ⟨steps, rfl⟩ : ∃ k, steps = k + 1 := ⟨steps - 1, by omega⟩
    rw [renderMembers, List.length_append, List.length_cons] at hSteps
    rw [renderMembers, List.append_assoc, List.cons_append]
    exact (readMembers_member s (hRead _ List.mem_cons_self) (by omega) rest).1
  | cons n ms ih =>
    obtain ⟨s, hs⟩ := Option.isSome_iff_exists.mp (hName m List.mem_cons_self)
    obtain ⟨name, v⟩ := m
    obtain rfl : name = some s := hs
    obtain ⟨steps, rfl⟩ : ∃ k, steps = k + 1 := ⟨steps - 1, by omega⟩
    rw [renderMembers, List.length_append, List.length_append, List.length_cons,
      List.length_cons] at hSteps
    dsimp only at hSteps
    have hShort : (renderMembers (n :: ms)).length < steps := by omega
    have hValue : v.renderChars.length ≤ steps := by omega
    have hRest := ih (fun m' h => hName m' (.tail _ h)) (fun m' h => hRead m' (.tail _ h)) hShort
    have hFirst := (readMembers_member s (hRead _ List.mem_cons_self) hValue
      (renderMembers (n :: ms) ++ '\x7d' :: rest)).2
    rw [hRest] at hFirst
    simpa [renderMembers] using hFirst

theorem renderMembers_opens {m : Option String × Json} (ms : List (Option String × Json)) :
    ∃ cs, renderMembers (m :: ms) = '"' :: cs := by
  cases ms with
  | nil => exact ⟨_, rfl⟩
  | cons n ms => exact ⟨_, rfl⟩

theorem readsBack_array {vs : List Json} (h : ∀ v ∈ vs, v.Writable) (ih : ∀ v ∈ vs, v.ReadsBack) :
    (array vs).ReadsBack := by
  intro steps rest hSteps _
  have hOpen : ∀ cs, skipGap ('[' :: cs) = '[' :: cs := skipGap_of_not_gap rfl
  cases vs with
  | nil =>
    obtain ⟨steps, rfl⟩ : ∃ k, steps = k + 1 :=
      ⟨steps - 1, by simp [renderChars, renderItems] at hSteps; omega⟩
    have hClose : skipGap (']' :: rest) = ']' :: rest := skipGap_of_not_gap rfl rest
    simp [renderChars, renderItems, readValue, hOpen, hClose]
  | cons v vs =>
    simp only [renderChars, List.cons_append, List.length_cons, List.length_append,
      List.length_nil] at hSteps
    obtain ⟨steps, rfl⟩ : ∃ k, steps = k + 1 := ⟨steps - 1, by omega⟩
    have hShort : (renderItems (v :: vs)).length < steps := by omega
    have hItems := readItems_renderItems ih hShort rest
    have hOpens := renderItems_opens vs (h v List.mem_cons_self)
    have hSkip := hOpens.skipGap_append (']' :: rest)
    obtain ⟨c, r, hc, -, hEnd⟩ := hOpens
    rw [hc, List.cons_append] at hItems hSkip
    simp [renderChars, readValue, hOpen, hc, hSkip, hEnd, hItems]

theorem readsBack_object {ms : List (Option String × Json)}
    (hName : ∀ m ∈ ms, m.1.isSome = true) (ih : ∀ m ∈ ms, m.2.ReadsBack) :
    (object ms).ReadsBack := by
  intro steps rest hSteps _
  have hOpen : ∀ cs, skipGap ('\x7b' :: cs) = '\x7b' :: cs := skipGap_of_not_gap rfl
  cases ms with
  | nil =>
    obtain ⟨steps, rfl⟩ : ∃ k, steps = k + 1 :=
      ⟨steps - 1, by simp [renderChars, renderMembers] at hSteps; omega⟩
    have hClose : skipGap ('\x7d' :: rest) = '\x7d' :: rest := skipGap_of_not_gap rfl rest
    simp [renderChars, renderMembers, readValue, hOpen, hClose]
  | cons m ms =>
    simp only [renderChars, List.cons_append, List.length_cons, List.length_append,
      List.length_nil] at hSteps
    obtain ⟨steps, rfl⟩ : ∃ k, steps = k + 1 := ⟨steps - 1, by omega⟩
    have hShort : (renderMembers (m :: ms)).length < steps := by omega
    have hMembers := readMembers_renderMembers hName ih hShort rest
    obtain ⟨r, hr⟩ := renderMembers_opens (m := m) ms
    have hSkip : ∀ cs, skipGap ('"' :: cs) = '"' :: cs := skipGap_of_not_gap rfl
    rw [hr, List.cons_append] at hMembers
    simp [renderChars, readValue, hOpen, hr, hSkip, hMembers]

/-- A value that is neither array nor object. -/
theorem readsBack_of_scalar {v : Json} {c : Char} {cs : List Char} (hcs : v.renderChars = c :: cs)
    (hGap : isGap c = false) (hArray : c ≠ '[') (hObject : c ≠ '\x7b')
    (hRead : ∀ rest, Ends rest → readScalar (v.renderChars ++ rest) = some (v, rest)) :
    v.ReadsBack := by
  intro steps rest hSteps hEnds
  obtain ⟨steps, rfl⟩ : ∃ k, steps = k + 1 := by
    rw [hcs, List.length_cons] at hSteps
    exact ⟨steps - 1, by omega⟩
  have hRest := hRead rest hEnds
  rw [hcs, List.cons_append] at hRest ⊢
  rw [readValue_of_head hGap hArray hObject, hRest]

/-- A value is read from its text, in no more steps than there are characters. -/
theorem readsBack_of_writable {v : Json} (h : v.Writable) : v.ReadsBack := by
  induction h with
  | null => exact readsBack_of_scalar rfl rfl (by decide) (by decide) fun _ _ => rfl
  | bool b =>
    cases b with
    | true =>
      have hText : (bool true).renderChars = ['t', 'r', 'u', 'e'] := by decide +kernel
      refine readsBack_of_scalar hText rfl (by decide) (by decide) fun rest _ => ?_
      rw [hText]
      rfl
    | false =>
      have hText : (bool false).renderChars = ['f', 'a', 'l', 's', 'e'] := by decide +kernel
      refine readsBack_of_scalar hText rfl (by decide) (by decide) fun rest _ => ?_
      rw [hText]
      rfl
  | number hn =>
    obtain ⟨c, cs, hcs, hHead⟩ := renderNumber_head hn
    obtain ⟨hGap, -, hArray, hObject, -⟩ := ne_of_number_head hHead
    exact readsBack_of_scalar hcs hGap hArray hObject fun _ => readScalar_renderNumber hn
  | text s =>
    refine readsBack_of_scalar rfl rfl (by decide) (by decide) fun rest _ => ?_
    rw [renderChars, Option.getD_some, quote_append]
    simp [readScalar, readText_quote]
  | array h ih => exact readsBack_array h ih
  | object hName h ih => exact readsBack_object hName ih

/-- A value is read back. -/
theorem read?_render {v : Json} (h : v.Writable) : read? v.render = some v := by
  have hRead := readsBack_of_writable h (v.renderChars.length + 1) [] (Nat.le_succ _) ends_nil
  rw [List.append_nil] at hRead
  simp [read?, render, hRead, skipGap]

end RuleVerdict.Json
