import Mathlib.Data.List.DropRight
import Mathlib.Data.List.Forall2
import Mathlib.Tactic.ByContra
import RuleVerdict.Proofs.Json.ReadBack
import RuleVerdict.Proofs.Text.Delimiters

/-!
# Scalars inside objects

A text that writes a number, a text or a truth value writes the same where it stands in an object,
whatever its digits, its escapes and the blanks around it are. An object is then read from the
texts of its names and values, each taken as it is.

* `stopsBefore_readNumber`: a number ends where a delimiter comes.
* `readScalar_append`: a scalar is read up to what follows it.
* `read?_objectText`: an object that is put together from texts.
-/

namespace RuleVerdict.Json

open Text

variable {tail : List Char}

theorem Ends.delimited (h : Ends tail) : Delimited tail := by
  intro c cs hcs
  rcases h c cs hcs with rfl | rfl | rfl <;> decide

/-! ## Numbers -/

theorem stopsBefore_readDigits (h : Delimited tail) : StopsBefore tail readDigits := by
  intro cs
  obtain ⟨hTake, hDrop⟩ := takeWhile_append_of_delimited h cs
  rw [readDigits, readDigits, hTake, hDrop]
  split <;> rfl

theorem stopsBefore_readWhole (h : Delimited tail) : StopsBefore tail readWhole := by
  have hZero : StopsBefore tail fun cs =>
      if (cs.takeWhile isDigit).isEmpty then some (['0'], cs) else none := by
    intro cs
    dsimp only
    rw [(takeWhile_append_of_delimited h cs).1]
    split <;> rfl
  refine .byHead (p := (· = '0')) h (forall_mem_delimiters (by decide)) ?_ (fun cs hcs => ?_) hZero
    (stopsBefore_readDigits h)
  · rintro _ cs rfl
    rfl
  · unfold readWhole
    split
    · next rest => exact absurd rfl (hcs _ rest rfl)
    · rfl

theorem stopsBefore_readFraction (h : Delimited tail) : StopsBefore tail readFraction := by
  refine .byHead (p := (· = '.')) h (forall_mem_delimiters (by decide)) ?_ (fun cs hcs => ?_)
    ((stopsBefore_readDigits h).map some) (stopsBefore_some none)
  · rintro _ cs rfl
    rfl
  · unfold readFraction
    split
    · next rest => exact absurd rfl (hcs _ rest rfl)
    · rfl

theorem readExponent_of_marker {c : Char} (cs : List Char) (h : IsMarker c) :
    readExponent (c :: cs) =
      (readDigits (splitSign cs).2).map fun p => (some ((splitSign cs).1, p.1), p.2) := by
  unfold readExponent
  refine (if_pos h).trans ?_
  split
  · rfl
  · rfl
  · next hMinus hPlus => rw [splitSign_of_unsigned hMinus hPlus]

theorem readExponent_of_not_marker (cs : List Char) (h : ∀ c rest, cs = c :: rest → ¬IsMarker c) :
    readExponent cs = some (none, cs) := by
  cases cs with
  | nil => rfl
  | cons c cs =>
    unfold readExponent
    exact if_neg (h c cs rfl)

theorem stopsBefore_readExponent (h : Delimited tail) : StopsBefore tail readExponent :=
  .byHead h not_isMarker_of_mem_delimiters (fun _ => readExponent_of_marker)
    readExponent_of_not_marker
    ((stopsBefore_splitSign h).bind fun neg =>
      (stopsBefore_readDigits h).map fun ds => some (neg, ds))
    (stopsBefore_some none)

theorem readUnsigned_eq (neg : Bool) (cs : List Char) :
    readUnsigned neg cs =
      (readWhole cs).bind fun w => (readFraction w.2).bind fun f =>
        (readExponent f.2).map fun e => (⟨neg, w.1, f.1, e.1⟩, e.2) := by
  unfold readUnsigned
  cases readWhole cs with
  | none => rfl
  | some w =>
    cases hFraction : readFraction w.2 with
    | none => simp [hFraction]
    | some f => cases hExponent : readExponent f.2 <;> simp [hFraction, hExponent]

theorem stopsBefore_readUnsigned (h : Delimited tail) (neg : Bool) :
    StopsBefore tail (readUnsigned neg) := by
  have hParts := (stopsBefore_readWhole h).bind fun whole =>
    (stopsBefore_readFraction h).bind fun fraction =>
      (stopsBefore_readExponent h).map fun exponent => JsonNumber.mk neg whole fraction exponent
  intro cs
  rw [readUnsigned_eq, readUnsigned_eq]
  exact hParts cs

/-- A number ends where a delimiter comes. -/
theorem stopsBefore_readNumber (h : Delimited tail) : StopsBefore tail readNumber := by
  refine .byHead (p := (· = '-')) h (forall_mem_delimiters (by decide)) ?_ (fun cs hcs => ?_)
    (stopsBefore_readUnsigned h true) (stopsBefore_readUnsigned h false)
  · rintro _ cs rfl
    rfl
  · unfold readNumber
    split
    · next rest => exact absurd rfl (hcs _ rest rfl)
    · rfl

/-! ## Texts -/

theorem textUnits_code (a b c d : Char) (cs : List Char) :
    textUnits ('\\' :: 'u' :: a :: b :: c :: d :: cs) =
      (hexCode? a b c d).bind fun n => (textUnits cs).map fun p => (.code n :: p.1, p.2) := by
  rw [textUnits]
  cases hexCode? a b c d with
  | none => rfl
  | some n => cases textUnits cs <;> rfl

theorem textUnits_escape {c : Char} (h : c ≠ 'u') (cs : List Char) :
    textUnits ('\\' :: c :: cs) =
      (shortEscape? c).bind fun e => (textUnits cs).map fun p => (.char e :: p.1, p.2) := by
  rw [textUnits]
  · cases shortEscape? c with
    | none => rfl
    | some e => cases textUnits cs <;> rfl
  · exact fun _ _ _ _ _ hc _ => h hc

theorem textUnits_plain {c : Char} (hQuote : c ≠ '"') (h : ¬(c < ' ' ∨ c = '\\'))
    (cs : List Char) :
    textUnits (c :: cs) = (textUnits cs).map fun p => (.char c :: p.1, p.2) := by
  rw [textUnits, if_neg h]
  · cases textUnits cs <;> rfl
  · exact hQuote
  · exact fun _ _ _ _ _ hc _ => h (.inr hc)
  · exact fun _ _ hc _ => h (.inr hc)

theorem map_textUnits_append {u : TextUnit} {cs rest tail : List Char} {us : List TextUnit}
    (ih : ∀ us, textUnits cs = some (us, rest) → textUnits (cs ++ tail) = some (us, rest ++ tail))
    (h : (textUnits cs).map (fun p => (u :: p.1, p.2)) = some (us, rest)) :
    (textUnits (cs ++ tail)).map (fun p => (u :: p.1, p.2)) = some (us, rest ++ tail) := by
  obtain ⟨⟨vs, last⟩, hvs, hEq⟩ := Option.map_eq_some_iff.mp h
  obtain ⟨rfl, rfl⟩ := Prod.mk.inj hEq
  rw [ih vs hvs]
  rfl

/-- A text ends with its quote, whatever follows that. -/
theorem textUnits_append {cs rest : List Char} {us : List TextUnit}
    (h : textUnits cs = some (us, rest)) (tail : List Char) :
    textUnits (cs ++ tail) = some (us, rest ++ tail) := by
  induction cs using textUnits.induct generalizing us with
  | case1 => cases h
  | case2 cs =>
    obtain ⟨rfl, rfl⟩ := Prod.mk.inj (Option.some.inj h)
    rfl
  | case3 a b c d cs ih =>
    rw [textUnits_code] at h
    obtain ⟨n, hn, hRead⟩ := Option.bind_eq_some_iff.mp h
    simp only [List.cons_append]
    rw [textUnits_code, hn]
    exact map_textUnits_append (fun _ => ih) hRead
  | case4 c cs hNot ih =>
    by_cases hCode : c = 'u'
    · -- Too short for a numeric escape, and there is no short one of this letter.
      subst hCode
      have hNone : textUnits ('\\' :: 'u' :: cs) = none := by
        rw [textUnits]
        · rfl
        · exact hNot
      rw [hNone] at h
      cases h
    · rw [textUnits_escape hCode] at h
      obtain ⟨e, he, hRead⟩ := Option.bind_eq_some_iff.mp h
      rw [List.cons_append, List.cons_append, textUnits_escape hCode, he]
      exact map_textUnits_append (fun _ => ih) hRead
  | case5 c cs hQuote hCode hEscape hc =>
    rw [textUnits, if_pos hc] at h
    · cases h
    · exact hQuote
    · exact hCode
    · exact hEscape
  | case6 c cs hQuote hCode hEscape hc ih =>
    rw [textUnits_plain hQuote hc] at h
    rw [List.cons_append, textUnits_plain hQuote hc]
    exact map_textUnits_append (fun _ => ih) h

theorem readText_append {cs rest : List Char} {s : Option String}
    (h : readText cs = some (s, rest)) (tail : List Char) :
    readText (cs ++ tail) = some (s, rest ++ tail) := by
  obtain ⟨⟨us, last⟩, hUnits, hEq⟩ := Option.map_eq_some_iff.mp h
  obtain ⟨rfl, rfl⟩ := Prod.mk.inj hEq
  rw [readText, textUnits_append hUnits tail]
  rfl

/-! ## Scalars -/

/-- A scalar other than null. -/
inductive IsScalar : Json → Prop
  | bool (b : Bool) : IsScalar (.bool b)
  | number (n : JsonNumber) : IsScalar (.number n)
  | text (s : Option String) : IsScalar (.text s)

/-- A word that stands for a value, and what is read where it does not come. -/
def readWord (word : List Char) (v : Json) (other : List Char → Option (Json × List Char))
    (cs : List Char) : Option (Json × List Char) :=
  match after? word cs with
  | some rest => some (v, rest)
  | none => other cs

/-- The scalars that are no texts. -/
def readPlain : List Char → Option (Json × List Char) :=
  readWord ['n', 'u', 'l', 'l'] .null <| readWord ['t', 'r', 'u', 'e'] (.bool true) <|
    readWord ['f', 'a', 'l', 's', 'e'] (.bool false) fun cs =>
      (readNumber cs).map fun p => (.number p.1, p.2)

theorem readScalar_of_not_quote {cs : List Char} (h : ∀ rest, cs ≠ '"' :: rest) :
    readScalar cs = readPlain cs := by
  unfold readScalar
  split
  · next rest => exact absurd rfl (h rest)
  · rfl

theorem after?_append {word : List Char} (hWord : ∀ d ∈ delimiters, d ∉ word)
    (h : Delimited tail) (cs : List Char) :
    after? word (cs ++ tail) = (after? word cs).map (· ++ tail) := by
  induction word generalizing cs with
  | nil => rfl
  | cons w ws ih =>
    have hRest := ih fun d hd hMem => hWord d hd (List.mem_cons_of_mem w hMem)
    cases cs with
    | nil =>
      cases tail with
      | nil => rfl
      | cons d ds =>
        have hNe : w ≠ d := by
          rintro rfl
          exact hWord w (h w ds rfl) List.mem_cons_self
        rw [List.nil_append, after?, if_neg hNe]
        rfl
    | cons c cs =>
      rw [List.cons_append, after?, after?, hRest, apply_ite (Option.map _)]
      rfl

theorem stopsBefore_readWord {word : List Char} (hWord : ∀ d ∈ delimiters, d ∉ word)
    (h : Delimited tail) (v : Json) {other : List Char → Option (Json × List Char)}
    (hOther : StopsBefore tail other) : StopsBefore tail (readWord word v other) := by
  intro cs
  rw [readWord, readWord, after?_append hWord h]
  cases after? word cs with
  | none => exact hOther cs
  | some rest => rfl

theorem stopsBefore_readPlain (h : Delimited tail) : StopsBefore tail readPlain :=
  stopsBefore_readWord (forall_mem_delimiters (by decide)) h _ <|
    stopsBefore_readWord (forall_mem_delimiters (by decide)) h _ <|
      stopsBefore_readWord (forall_mem_delimiters (by decide)) h _ <|
        (stopsBefore_readNumber h).map Json.number

/-- A scalar is read up to what follows it. -/
theorem readScalar_append {cs rest : List Char} {v : Json} (h : readScalar cs = some (v, rest))
    (hTail : Ends tail) : readScalar (cs ++ tail) = some (v, rest ++ tail) := by
  cases cs with
  | nil => cases h
  | cons c cs =>
    by_cases hQuote : c = '"'
    · subst hQuote
      obtain ⟨⟨s, last⟩, hRead, hEq⟩ := Option.map_eq_some_iff.mp h
      obtain ⟨rfl, rfl⟩ := Prod.mk.inj hEq
      rw [List.cons_append, readScalar, readText_append hRead tail]
      rfl
    · have hNot : ∀ ds rest : List Char, c :: ds ≠ '"' :: rest :=
        fun ds rest hcs => hQuote (List.cons.inj hcs).1
      rw [readScalar_of_not_quote (hNot _)] at h
      rw [List.cons_append, readScalar_of_not_quote (hNot _), ← List.cons_append,
        stopsBefore_readPlain hTail.delimited, h]
      rfl

/-! ## Values -/

theorem IsScalar.readScalar_skipGap {v : Json} (hv : v.IsScalar) {steps : Nat}
    {cs rest : List Char} (h : readValue (steps + 1) cs = some (v, rest)) :
    readScalar (skipGap cs) = some (v, rest) ∧ (∀ ds, skipGap cs ≠ '[' :: ds) ∧
      ∀ ds, skipGap cs ≠ '\x7b' :: ds := by
  have hNotArray : ∀ (vs : List Json) r, some (Json.array vs, r) ≠ some (v, rest) := by
    rintro vs r ⟨⟩
    cases hv
  have hNotObject : ∀ (ms : List (Option String × Json)) r,
      some (Json.object ms, r) ≠ some (v, rest) := by
    rintro ms r ⟨⟩
    cases hv
  unfold readValue at h
  split at h
  · split at h
    · exact absurd h (hNotArray _ _)
    · obtain ⟨p, -, hp⟩ := Option.map_eq_some_iff.mp h
      exact absurd (congrArg some hp) (hNotArray _ _)
  · split at h
    · exact absurd h (hNotObject _ _)
    · obtain ⟨p, -, hp⟩ := Option.map_eq_some_iff.mp h
      exact absurd (congrArg some hp) (hNotObject _ _)
  · next hArray hObject => exact ⟨h, hArray, hObject⟩

theorem skipGap_append {cs : List Char} (h : skipGap cs ≠ []) (tail : List Char) :
    skipGap (cs ++ tail) = skipGap cs ++ tail := by
  rw [skipGap, skipGap, List.dropWhile_append, if_neg (by simpa [skipGap] using h)]

theorem skipGap_append_of_gap {cs : List Char} (h : skipGap cs = []) (tail : List Char) :
    skipGap (cs ++ tail) = skipGap tail := by
  rw [skipGap, skipGap, List.dropWhile_append, if_pos (by simpa [skipGap] using h)]

/-- A scalar that is all of a text but for the blanks around it. -/
theorem IsScalar.exists_readScalar {v : Json} (hv : v.IsScalar) {s : String}
    (h : read? s = some v) :
    ∃ c cs rest, skipGap s.toList = c :: cs ∧ c ≠ '[' ∧ c ≠ '\x7b' ∧
      readScalar (c :: cs) = some (v, rest) ∧ skipGap rest = [] := by
  unfold read? at h
  dsimp only at h
  split at h
  · next w rest hRead =>
    split at h
    · next hEnd =>
      obtain rfl := Option.some.inj h
      obtain ⟨hScalar, hArray, hObject⟩ := hv.readScalar_skipGap hRead
      cases hSkip : skipGap s.toList with
      | nil =>
        rw [hSkip] at hScalar
        cases hScalar
      | cons c cs =>
        rw [hSkip] at hScalar hArray hObject
        exact ⟨c, cs, rest, rfl, fun hc => hArray cs (hc ▸ rfl), fun hc => hObject cs (hc ▸ rfl),
          hScalar, List.isEmpty_iff.mp hEnd⟩
    · cases h
  · cases h

/-- A scalar is read from its text with all that follows. -/
theorem IsScalar.readValue_append {v : Json} (hv : v.IsScalar) {s : String} (h : read? s = some v)
    (hTail : Ends tail) (steps : Nat) :
    ∃ rest, readValue (steps + 1) (s.toList ++ tail) = some (v, rest ++ tail) ∧
      skipGap rest = [] := by
  obtain ⟨c, cs, rest, hSkip, hArray, hObject, hScalar, hRest⟩ := hv.exists_readScalar h
  refine ⟨rest, ?_, hRest⟩
  have hHead : skipGap (s.toList ++ tail) = c :: (cs ++ tail) := by
    rw [skipGap_append (by simp [hSkip]), hSkip, List.cons_append]
  have hValue : readValue (steps + 1) (s.toList ++ tail) = readScalar (c :: (cs ++ tail)) := by
    unfold readValue
    rw [hHead]
    split
    · next hcs => exact absurd (List.cons.inj hcs).1 hArray
    · next hcs => exact absurd (List.cons.inj hcs).1 hObject
    · rfl
  rw [hValue, ← List.cons_append, readScalar_append hScalar hTail]

theorem readPlain_ne_text {cs rest : List Char} {s : Option String} :
    readPlain cs ≠ some (.text s, rest) := by
  unfold readPlain readWord
  split
  · simp
  · split
    · simp
    · split <;> simp

/-- A name is read from its text with all that follows. -/
theorem exists_readText {s : String} {name : Option String} (h : read? s = some (.text name))
    (tail : List Char) :
    ∃ cs rest, skipGap (s.toList ++ tail) = '"' :: cs ∧ readText cs = some (name, rest ++ tail) ∧
      skipGap rest = [] := by
  obtain ⟨c, cs, rest, hSkip, -, -, hScalar, hRest⟩ := (IsScalar.text name).exists_readScalar h
  have hQuote : c = '"' := by
    by_contra hOther
    rw [readScalar_of_not_quote fun _ hcs => hOther (List.cons.inj hcs).1] at hScalar
    exact readPlain_ne_text hScalar
  subst hQuote
  obtain ⟨⟨s, last⟩, hRead, hEq⟩ := Option.map_eq_some_iff.mp hScalar
  obtain ⟨hs, rfl⟩ := Prod.mk.inj hEq
  obtain rfl := Json.text.inj hs
  refine ⟨cs ++ tail, last, ?_, readText_append hRead tail, hRest⟩
  rw [skipGap_append (by simp [hSkip]), hSkip, List.cons_append]

/-! ## Objects -/

/-- The members of an object, put together from the texts of their names and values. -/
def objectChars : List (String × String) → List Char
  | [] => []
  | [m] => m.1.toList ++ ':' :: m.2.toList
  | m :: ms => m.1.toList ++ ':' :: (m.2.toList ++ ',' :: objectChars ms)

/-- The text of an object, put together from the texts of its names and values. -/
def objectText (ms : List (String × String)) : String :=
  String.ofList ('\x7b' :: (objectChars ms ++ ['\x7d']))

/-- To a reader the texts write the name and the value of a member, which is a scalar. -/
structure WritesMember (read? : String → Option Json) (texts : String × String)
    (m : Option String × Json) : Prop where
  name : read? texts.1 = some (.text m.1)
  value : read? texts.2 = some m.2
  scalar : m.2.IsScalar

theorem readMembers_skipGap (steps : Nat) (cs : List Char) :
    readMembers steps (skipGap cs) = readMembers steps cs := by
  have hTwice : skipGap (skipGap cs) = skipGap cs := List.dropWhile_idempotent ..
  cases steps with
  | zero => rw [readMembers, readMembers]
  | succ steps =>
    unfold readMembers
    rw [hTwice]

/-- A member is read up to what follows its value. -/
theorem WritesMember.readMembers {texts : String × String} {m : Option String × Json}
    (h : WritesMember read? texts m) {c : Char} (hc : c = ',' ∨ c = '\x7d') (cs : List Char)
    (steps : Nat) :
    Json.readMembers (steps + 2) (texts.1.toList ++ ':' :: (texts.2.toList ++ c :: cs)) =
      if c = ',' then (Json.readMembers (steps + 1) cs).map fun p => (m :: p.1, p.2)
      else some ([m], cs) := by
  have hEnds : Ends (c :: cs) := ends_cons (hc.imp_right .inr) cs
  have hNoGap : isGap c = false := by rcases hc with rfl | rfl <;> rfl
  obtain ⟨value, hValue, hGap'⟩ := h.scalar.readValue_append h.value hEnds steps
  obtain ⟨ds, name, hSkip, hName, hGap⟩ :=
    exists_readText h.name (':' :: (texts.2.toList ++ c :: cs))
  have hColon : skipGap (name ++ ':' :: (texts.2.toList ++ c :: cs)) =
      ':' :: (texts.2.toList ++ c :: cs) := by
    rw [skipGap_append_of_gap hGap, skipGap_of_not_gap rfl]
  have hNext : skipGap (value ++ c :: cs) = c :: cs := by
    rw [skipGap_append_of_gap hGap', skipGap_of_not_gap hNoGap]
  unfold Json.readMembers
  simp only [hSkip, hName, hColon, hValue]
  rw [hNext]
  rcases hc with rfl | rfl <;> rfl

theorem readMembers_objectChars {texts : List (String × String)}
    {ms : List (Option String × Json)} (h : List.Forall₂ (WritesMember read?) texts ms)
    (hne : ms ≠ []) {steps : Nat} (hSteps : ms.length < steps) (rest : List Char) :
    readMembers steps (objectChars texts ++ '\x7d' :: rest) = some (ms, rest) := by
  induction h generalizing steps with
  | nil => exact absurd rfl hne
  | @cons t m texts ms hm hms ih =>
    rw [List.length_cons] at hSteps
    obtain ⟨steps, rfl⟩ : ∃ k, steps = k + 2 := ⟨steps - 2, by omega⟩
    cases hms with
    | nil =>
      rw [objectChars, List.append_assoc, List.cons_append, hm.readMembers (.inr rfl)]
      rfl
    | cons hn hms =>
      have hShort := Nat.lt_of_succ_lt_succ hSteps
      rw [objectChars, List.append_assoc, List.cons_append, List.append_assoc, List.cons_append,
        hm.readMembers (.inl rfl), ih (List.cons_ne_nil _ _) hShort]
      · rfl
      · exact List.cons_ne_nil _ _

theorem length_le_objectChars (texts : List (String × String)) :
    texts.length ≤ (objectChars texts).length := by
  induction texts with
  | nil => exact Nat.le_refl 0
  | cons t texts ih =>
    cases texts with
    | nil => simp only [objectChars, List.length_append, List.length_cons, List.length_nil]; omega
    | cons u texts =>
      simp only [objectChars, List.length_append, List.length_cons] at ih ⊢
      omega

/-- The members of an object begin with a name. -/
theorem objectChars_head {t : String × String} {m : Option String × Json}
    (h : WritesMember read? t m) (texts : List (String × String)) (tail : List Char) :
    ∃ cs, skipGap (objectChars (t :: texts) ++ tail) = '"' :: cs := by
  obtain ⟨behind, hChars⟩ : ∃ behind, objectChars (t :: texts) = t.1.toList ++ behind := by
    cases texts with
    | nil => exact ⟨_, rfl⟩
    | cons u texts => exact ⟨_, rfl⟩
  obtain ⟨cs, -, hSkip, -⟩ := exists_readText h.name (behind ++ tail)
  exact ⟨cs, by rw [hChars, List.append_assoc, hSkip]⟩

/-- An object is read from the texts of its names and values. -/
theorem read?_objectText {texts : List (String × String)} {ms : List (Option String × Json)}
    (h : List.Forall₂ (WritesMember read?) texts ms) :
    read? (objectText texts) = some (.object ms) := by
  have hOpen : ∀ cs, skipGap ('\x7b' :: cs) = '\x7b' :: cs := skipGap_of_not_gap rfl
  have hText : (objectText texts).toList = '\x7b' :: (objectChars texts ++ ['\x7d']) :=
    String.toList_ofList
  have hSteps : ms.length < (objectText texts).toList.length := by
    have hLength := length_le_objectChars texts
    rw [h.length_eq] at hLength
    rw [hText, List.length_cons, List.length_append]
    omega
  have hRead : readValue ((objectText texts).toList.length + 1) (objectText texts).toList =
      some (.object ms, []) := by
    generalize (objectText texts).toList.length = steps at hSteps
    rw [hText]
    cases h with
    | nil => simp [objectChars, readValue, hOpen, skipGap_of_not_gap, isGap]
    | @cons t m texts ms hm hms =>
      have hMembers := readMembers_objectChars (.cons hm hms) (List.cons_ne_nil _ _) hSteps []
      obtain ⟨cs, hSkip⟩ := objectChars_head hm texts ['\x7d']
      rw [← readMembers_skipGap, hSkip] at hMembers
      simp [readValue, hOpen, hSkip, hMembers]
  rw [read?, hRead]
  rfl

end RuleVerdict.Json
