import RuleVerdict.Proofs.Logic.Agreement
import RuleVerdict.Proofs.Logic.Spacing
import RuleVerdict.Proofs.Logic.Spelling

/-!
# Free layout

An author may write the tokens of a logic in any letter case, ids with leading zeros, and as many
blanks around them as desired. A blank is needed only where two words would run together: between
two ids, and between two of `and`, `or` and `not`. The normal layout of such a text has one word
for each token, so that the tokens are found again.

The layout only looks at the kinds of characters. The word of a token is a run of one kind
(`IsRun`), and a space is put before it unless the text in front of it is of the same kind; in
that case there is a blank, which becomes a space itself.

* `IsRun.whole`: spacing leaves a run whole.
* `normalize_join_word`: the words of tokens with single spaces between them are in normal layout.
* `tokenize_normalize_of_written`: tokens are found again however they are laid out.
-/

namespace RuleVerdict.Logic

open Text

/-! ## Characters -/

theorem lowerChar_of_isBlank {c : Char} (h : isBlank c = true) : lowerChar c = c := by
  have hNone : ∀ n ∈ blankCodes, Unicode.lowerRuns.findSome? (fun r => r.apply? n) = none := by
    decide +kernel
  rw [lowerChar, hNone _ (toNat_mem_blankCodes h)]

theorem lowerChar_of_ascii {c : Char} (h : c.toNat < 128) : lowerChar c = c.toLower := by
  have hAll : ∀ n, n < 128 → lowerChar (Char.ofNat n) = (Char.ofNat n).toLower := by
    decide +kernel
  have hc := hAll _ h
  rwa [Char.ofNat_toNat] at hc

theorem toNat_lt_of_kind {c : Char} {k : CharKind} (h : CharKind.of? c = some k) :
    c.toNat < 128 := by
  unfold CharKind.of? at h
  split_ifs at h with hDigit hLetter hBracket
  · simp only [isDigit, Bool.and_eq_true, decide_eq_true_eq, le_iff_toNat_le,
      Char.reduceToNat] at hDigit
    omega
  · simp only [le_iff_toNat_le, Char.reduceToNat] at hLetter
    omega
  · rcases hBracket with rfl | rfl <;> decide

theorem lowerChar_of_kind {c : Char} {k : CharKind} (h : CharKind.of? c = some k) :
    lowerChar c = c := by
  have hAll : ∀ n, n < 128 → (CharKind.of? (Char.ofNat n)).isSome = true →
      (Char.ofNat n).toLower = Char.ofNat n := by
    decide +kernel
  have hc := hAll _ (toNat_lt_of_kind h)
  rw [Char.ofNat_toNat, h] at hc
  rw [lowerChar_of_ascii (toNat_lt_of_kind h), hc rfl]

theorem map_lowerChar_eq_self {cs : List Char} (h : ∀ c ∈ cs, lowerChar c = c) :
    cs.map lowerChar = cs := by
  rw [List.map_congr_left (g := id) h, List.map_id]

theorem map_lowerChar_of_blanks {gap : List Char} (h : ∀ c ∈ gap, isBlank c = true) :
    gap.map lowerChar = gap :=
  map_lowerChar_eq_self fun c hc => lowerChar_of_isBlank (h c hc)

theorem toNat_lt_of_toLower {c : Char} (h : c.toLower.toNat < 128) : c.toNat < 128 := by
  unfold Char.toLower at h
  split at h
  · next hUpper =>
    have hLe : c.toNat ≤ 90 := hUpper.2
    omega
  · exact h

/-- Among blanks and ASCII characters lower case goes character by character. -/
theorem lowercase_eq_map {cs : List Char} (h : ∀ c ∈ cs, isBlank c = true ∨ c.toNat < 128) :
    lowercase cs = cs.map lowerChar := by
  apply lowerFrom_of_plain
  intro c hc
  rcases h c hc with hBlank | hAscii
  · constructor
    · rintro rfl
      revert hBlank
      decide
    · rintro rfl
      revert hBlank
      decide
  · constructor
    · rintro rfl
      revert hAscii
      decide
    · rintro rfl
      revert hAscii
      decide

theorem mem_glue {sep c : Char} {ps : List (List Char)} (h : c ∈ glue sep ps) :
    c = sep ∨ ∃ p ∈ ps, c ∈ p := by
  induction ps with
  | nil => cases h
  | cons p ps ih =>
    cases ps with
    | nil => exact .inr ⟨p, List.mem_cons_self, h⟩
    | cons q ps =>
      rw [glue, List.mem_append, List.mem_cons] at h
      rcases h with hp | hSep | hRest
      · exact .inr ⟨p, List.mem_cons_self, hp⟩
      · exact .inl hSep
      · rcases ih hRest with hSep | ⟨r, hr, hc⟩
        · exact .inl hSep
        · exact .inr ⟨r, .tail p hr, hc⟩

/-! ## Runs of characters of one kind -/

/-- Characters of one kind; a bracket stands alone. -/
structure IsRun (k : CharKind) (w : List Char) : Prop where
  ne_nil : w ≠ []
  kind : ∀ c ∈ w, CharKind.of? c = some k
  alone : k = .bracket → w.length = 1

instance decidableIsRun (k : CharKind) (w : List Char) : Decidable (IsRun k w) :=
  decidable_of_iff (w ≠ [] ∧ (w.all fun c => CharKind.of? c == some k) = true ∧
      (k = .bracket → w.length = 1))
    ⟨fun ⟨hNe, hKind, hAlone⟩ => ⟨hNe, by simpa using hKind, hAlone⟩,
      fun h => ⟨h.ne_nil, by simpa using h.kind, h.alone⟩⟩

/-- Spacing leaves a run whole. -/
theorem IsRun.whole {k : CharKind} {w : List Char} (h : IsRun k w) (last : Option CharKind) :
    Whole last (some k) w where
  first := by
    obtain ⟨c, w, rfl⟩ := List.exists_cons_of_ne_nil h.ne_nil
    exact ⟨c, rfl, by rw [h.kind c List.mem_cons_self, Option.some_or]⟩
  keeps := fun c hc => by rw [h.kind c hc, Option.some_or]
  solid := fun c hc => isBlank_eq_false_of_kind (h.kind c hc)
  alone := fun hKind => h.alone (Option.some.inj hKind)

theorem spaced_cons_of_kind {c : Char} {k : CharKind} (h : CharKind.of? c = some k)
    (last : Option CharKind) (cs : List Char) :
    spaced last (c :: cs) =
      if last ≠ some k ∨ k = .bracket then ' ' :: c :: spaced (some k) cs
      else c :: spaced (some k) cs := by
  simp [spaced_cons_of_solid (isBlank_eq_false_of_kind h), h, eq_comm]

theorem wordsOf_spaced_blanks_append {gap : List Char} (h : ∀ c ∈ gap, isBlank c = true)
    (last : Option CharKind) (cs : List Char) :
    wordsOf (spaced last (gap ++ cs)) = wordsOf (spaced last cs) := by
  induction gap with
  | nil => rfl
  | cons c gap ih =>
    obtain ⟨hc, hGap⟩ := List.forall_mem_cons.mp h
    rw [List.cons_append, wordsOf_spaced_cons_of_isBlank hc, ih hGap]

theorem wordsOf_spaced_blanks {gap : List Char} (h : ∀ c ∈ gap, isBlank c = true)
    (last : Option CharKind) : wordsOf (spaced last gap) = [] := by
  have hNone := wordsOf_spaced_blanks_append h last []
  rwa [List.append_nil] at hNone

/-- The normal layout of blanks is empty. -/
theorem normalize_of_blanks {s : String} (h : ∀ c ∈ s.toList, isBlank c = true) :
    normalize s = "" := by
  have hLower : lowercase s.toList = s.toList := by
    rw [lowercase_eq_map fun c hc => .inl (h c hc), map_lowerChar_of_blanks h]
  rw [normalize, normalizeChars, hLower, wordsOf_spaced_blanks h]
  rfl

theorem startsApart_spaced_run {k l : CharKind} {w : List Char} (h : IsRun l w)
    (hkl : k ≠ l ∨ l = .bracket) (cs : List Char) : StartsApart (spaced (some k) (w ++ cs)) := by
  intro d hd
  obtain ⟨c, w, rfl⟩ := List.exists_cons_of_ne_nil h.ne_nil
  rw [List.cons_append, spaced_cons_of_kind (h.kind c List.mem_cons_self),
    if_pos (by simpa using hkl)] at hd
  simpa [eq_comm] using hd

/-! ## Normal layout is left alone -/

theorem settled_of_isRun {ws : List (List Char)} (h : ∀ w ∈ ws, ∃ k, IsRun k w)
    (last : Option CharKind) : Settled last ws := by
  induction ws generalizing last with
  | nil => exact .nil
  | cons w ws ih =>
    obtain ⟨⟨k, hw⟩, hws⟩ := List.forall_mem_cons.mp h
    exact .cons (hw.whole last) (ih hws (some k))

theorem normalizeChars_glue {ws : List (List Char)} (h : ∀ w ∈ ws, ∃ k, IsRun k w) :
    normalizeChars (glue ' ' ws) = glue ' ' ws := by
  have hChar : ∀ c ∈ glue ' ' ws, c = ' ' ∨ ∃ k, CharKind.of? c = some k := by
    intro c hc
    rcases mem_glue hc with hSpace | ⟨w, hw, hcw⟩
    · exact .inl hSpace
    · obtain ⟨k, hRun⟩ := h w hw
      exact .inr ⟨k, hRun.kind c hcw⟩
  have hLower : lowercase (glue ' ' ws) = glue ' ' ws := by
    rw [lowercase_eq_map, map_lowerChar_eq_self]
    · intro c hc
      rcases hChar c hc with rfl | ⟨k, hk⟩
      · exact lowerChar_of_isBlank isBlank_space
      · exact lowerChar_of_kind hk
    · intro c hc
      rcases hChar c hc with rfl | ⟨k, hk⟩
      · exact .inl isBlank_space
      · exact .inr (toNat_lt_of_kind hk)
  rw [normalizeChars, hLower, wordsOf_spaced_glue_of_settled (settled_of_isRun h none)]

/-- Every word that is a token is a run. -/
theorem exists_isRun_of_isTokenWord {w : String} (h : IsTokenWord w) : ∃ k, IsRun k w.toList := by
  rcases h with hMem | ⟨hNe, hDigits, -⟩
  · simp only [List.mem_cons, List.not_mem_nil, or_false] at hMem
    rcases hMem with rfl | rfl | rfl | rfl | rfl
    · exact ⟨.letter, by decide +kernel⟩
    · exact ⟨.letter, by decide +kernel⟩
    · exact ⟨.letter, by decide +kernel⟩
    · exact ⟨.bracket, by decide +kernel⟩
    · exact ⟨.bracket, by decide +kernel⟩
  · exact ⟨.digit, hNe, fun c hc => of?_of_isDigit (hDigits c hc), nofun⟩

theorem normalize_join {ws : List String} (h : ∀ w ∈ ws, IsTokenWord w) :
    normalize (join ' ' ws) = join ' ' ws := by
  have hRuns : ∀ w ∈ ws.map String.toList, ∃ k, IsRun k w := by
    intro w hw
    obtain ⟨v, hv, rfl⟩ := List.mem_map.mp hw
    exact exists_isRun_of_isTokenWord (h v hv)
  rw [normalize, join, String.toList_ofList, normalizeChars_glue hRuns]

theorem isTokenWord_of_tokenize {s : String} {ts : List Token}
    (h : tokenize (normalize s) = .ok ts) : ∀ w ∈ words (normalize s), IsTokenWord w := by
  apply forall_mem_of_forall_not_firstNot
  intro w hw
  rw [← tokenize_eq_error_iff, h] at hw
  cases hw

/-! ## Tokens as they are written -/

namespace Token

/-- What a token is written with. -/
def kind : Token → CharKind
  | .id _ => .digit
  | .and | .or | .not => .letter
  | .opening | .closing => .bracket

/-- An id is written in digits, perhaps with zeros in front, and every other token as its word, in
any letter case. -/
def Spelled : Token → List Char → Prop
  | .id n, w => w ≠ [] ∧ (∀ c ∈ w, isDigit c = true) ∧ ofDigits w = n.toNat
  | t, w => w.map Char.toLower = t.word.toList

instance decidableSpelled : (t : Token) → (w : List Char) → Decidable (t.Spelled w)
  | .id n, w => decidable_of_iff (w ≠ [] ∧ w.all isDigit = true ∧ ofDigits w = n.toNat) <| by
      rw [Spelled, List.all_eq_true]
  | .and, w => inferInstanceAs (Decidable (w.map Char.toLower = and.word.toList))
  | .or, w => inferInstanceAs (Decidable (w.map Char.toLower = or.word.toList))
  | .not, w => inferInstanceAs (Decidable (w.map Char.toLower = not.word.toList))
  | .opening, w => inferInstanceAs (Decidable (w.map Char.toLower = opening.word.toList))
  | .closing, w => inferInstanceAs (Decidable (w.map Char.toLower = closing.word.toList))

theorem spelled_word (t : Token) : t.Spelled t.word.toList := by
  cases t with
  | id n =>
    have hWord : (id n).word.toList = toDigits n.toNat := by
      simp [word, AtomId.text, numeral]
    rw [hWord]
    exact ⟨toDigits_ne_nil _, fun c hc => isDigit_of_mem_toDigits hc, ofDigits_toDigits _⟩
  | _ => decide +kernel

theorem isRun_of_word {t : Token} (h : t.id? = none) : IsRun t.kind t.word.toList := by
  cases t with
  | id n => cases h
  | _ => decide +kernel

theorem map_toLower_of_spelled {t : Token} {w : List Char} (h : t.Spelled w)
    (hId : t.id? = none) : w.map Char.toLower = t.word.toList := by
  cases t with
  | id n => cases hId
  | _ => exact h

/-- A token is written in ASCII characters. -/
theorem toNat_lt_of_spelled {t : Token} {w : List Char} (h : t.Spelled w) :
    ∀ c ∈ w, c.toNat < 128 := by
  intro c hc
  cases hId : t.id? with
  | some n =>
    obtain rfl : t = .id n := by
      cases t <;> simp_all [id?]
    exact toNat_lt_of_kind (of?_of_isDigit (h.2.1 c hc))
  | none =>
    have hMem := List.mem_map_of_mem (f := Char.toLower) hc
    rw [map_toLower_of_spelled h hId] at hMem
    exact toNat_lt_of_toLower (toNat_lt_of_kind ((isRun_of_word hId).kind _ hMem))

/-- In lower case a written token is a run that is read as the token. -/
theorem isRun_map_lowerChar {t : Token} {w : List Char} (h : t.Spelled w) :
    IsRun t.kind (w.map lowerChar) ∧ ofWord? (String.ofList (w.map lowerChar)) = some t := by
  cases hId : t.id? with
  | some n =>
    obtain rfl : t = .id n := by
      cases t <;> simp_all [id?]
    obtain ⟨hNe, hDigits, hNumber⟩ := h
    have hLower : w.map lowerChar = w := by
      apply map_lowerChar_eq_self
      intro c hc
      exact lowerChar_of_kind (of?_of_isDigit (hDigits c hc))
    rw [hLower]
    refine ⟨⟨hNe, fun c hc => of?_of_isDigit (hDigits c hc), nofun⟩, ?_⟩
    apply ofWord?_of_digits
    have hAll : w.all isDigit = true := List.all_eq_true.mpr hDigits
    have hRead : number? w = some n.toNat := by simp [number?, hNe, hAll, hNumber]
    rw [String.toList_ofList, AtomId.ofDigits?, hRead, Option.bind_some, AtomId.ofNat?_toNat]
  | none =>
    have hLower : w.map lowerChar = t.word.toList := by
      rw [← map_toLower_of_spelled h hId]
      apply List.map_congr_left
      intro c hc
      exact lowerChar_of_ascii (toNat_lt_of_spelled h c hc)
    rw [hLower, String.ofList_toList]
    exact ⟨isRun_of_word hId, t.ofWord?_word⟩

end Token

/-- A text writes some tokens in order, with blanks around them. Between two tokens that are written
with the same kind of characters there is a blank, unless they are brackets. -/
inductive Written : List Token → List Char → Prop
  | blank {gap : List Char} (hGap : ∀ c ∈ gap, isBlank c = true) : Written [] gap
  | token {t : Token} {ts : List Token} {gap w rest : List Char}
      (hGap : ∀ c ∈ gap, isBlank c = true) (hWord : t.Spelled w) (hRest : Written ts rest)
      (hPart : ∀ u ∈ ts.head?, u.kind = t.kind → t.kind ≠ .bracket →
        rest.head?.any isBlank = true) :
      Written (t :: ts) (gap ++ w ++ rest)

namespace Written

variable {ts : List Token} {cs : List Char}

theorem lowercase_eq_map (h : Written ts cs) : lowercase cs = cs.map lowerChar := by
  apply Logic.lowercase_eq_map
  induction h with
  | blank hGap => exact fun c hc => .inl (hGap c hc)
  | token hGap hWord hRest hPart ih =>
    intro c hc
    rw [List.mem_append, List.mem_append] at hc
    rcases hc with (hc | hc) | hc
    · exact .inl (hGap c hc)
    · exact .inr (Token.toNat_lt_of_spelled hWord c hc)
    · exact ih c hc

theorem space_cons (h : Written ts cs) : Written ts (' ' :: cs) := by
  have hSpace : ∀ gap : List Char, (∀ c ∈ gap, isBlank c = true) →
      ∀ c ∈ ' ' :: gap, isBlank c = true :=
    fun gap hGap => List.forall_mem_cons.mpr ⟨isBlank_space, hGap⟩
  cases h with
  | blank hGap => exact .blank (hSpace _ hGap)
  | token hGap hWord hRest hPart => exact .token (hSpace _ hGap) hWord hRest hPart

/-- What follows the word of a token starts apart from it. -/
theorem startsApart_spaced (h : Written ts cs) (k : CharKind)
    (hPart : ∀ u ∈ ts.head?, u.kind = k → k ≠ .bracket → cs.head?.any isBlank = true) :
    StartsApart (spaced (some k) (cs.map lowerChar)) := by
  by_cases hBlank : cs.head?.any isBlank = true
  · obtain ⟨c, hc, hcBlank⟩ := (Option.any_eq_true _ _).mp hBlank
    obtain ⟨tail, rfl⟩ := List.head?_eq_some_iff.mp hc
    rw [List.map_cons, lowerChar_of_isBlank hcBlank]
    exact startsApart_spaced_of_isBlank hcBlank _ _
  · cases h with
    | blank hGap =>
      cases cs with
      | nil => nofun
      | cons c cs => exact absurd (hGap c List.mem_cons_self) hBlank
    | @token t ts gap w rest hGap hWord hRest hNext =>
      cases gap with
      | cons c gap => exact absurd (hGap c List.mem_cons_self) hBlank
      | nil =>
        rw [List.nil_append, List.map_append]
        apply startsApart_spaced_run (Token.isRun_map_lowerChar hWord).1
        by_contra hSame
        obtain ⟨hKind, hBracket⟩ := not_or.mp hSame
        have hKind : t.kind = k := (not_ne_iff.mp hKind).symm
        exact hBlank (hPart t rfl hKind (hKind ▸ hBracket))

/-- Spacing finds one word for each token. -/
theorem tokensOf_wordsOf_spaced (h : Written ts cs) (last : Option CharKind) :
    tokensOf ((wordsOf (spaced last (cs.map lowerChar))).map String.ofList) = .ok ts := by
  induction h generalizing last with
  | blank hGap =>
    rw [map_lowerChar_of_blanks hGap, wordsOf_spaced_blanks hGap]
    rfl
  | @token t ts gap w rest hGap hWord hRest hPart ih =>
    obtain ⟨hRun, hRead⟩ := Token.isRun_map_lowerChar hWord
    have hApart := hRest.startsApart_spaced t.kind hPart
    rw [List.map_append, List.map_append, List.append_assoc, map_lowerChar_of_blanks hGap,
      wordsOf_spaced_blanks_append hGap, wordsOf_spaced_whole_append (hRun.whole last) hApart,
      List.map_cons, tokensOf, hRead, ih]
    rfl

/-- Tokens with single spaces between them. -/
theorem join_word (ts : List Token) : Written ts (join ' ' (ts.map Token.word)).toList := by
  have hGap : ∀ c ∈ ([] : List Char), isBlank c = true := List.forall_mem_nil _
  induction ts with
  | nil => exact .blank hGap
  | cons t ts ih =>
    have hSpelled := t.spelled_word
    cases ts with
    | nil =>
      have hText : (join ' ' ([t].map Token.word)).toList = [] ++ t.word.toList ++ [] := by
        simp [join, glue]
      rw [hText]
      exact .token hGap hSpelled (.blank hGap) (by simp)
    | cons u ts =>
      have hText : (join ' ' ((t :: u :: ts).map Token.word)).toList =
          [] ++ t.word.toList ++ ' ' :: (join ' ' ((u :: ts).map Token.word)).toList := by
        simp [join, glue]
      rw [hText]
      refine .token hGap hSpelled ?_ fun _ _ _ _ => isBlank_space
      exact ih.space_cons

end Written

/-- Words of tokens with single spaces between them are in normal layout. -/
theorem normalize_join_word (ts : List Token) :
    normalize (join ' ' (ts.map Token.word)) = join ' ' (ts.map Token.word) := by
  apply normalize_join
  intro w hw
  obtain ⟨t, -, rfl⟩ := List.mem_map.mp hw
  by_contra hNo
  have hNone := ofWord?_eq_none_iff.mpr hNo
  rw [t.ofWord?_word] at hNone
  cases hNone

/-- **Tokens are found again however they are laid out.** Whatever text writes some tokens, its
normal layout is tokenized as these tokens. One such text has their words with single spaces between
them; it is in normal layout itself. -/
theorem tokenize_normalize_of_written (ts : List Token) :
    (∀ text : String, Written ts text.toList → tokenize (normalize text) = .ok ts) ∧
      Written ts (join ' ' (ts.map Token.word)).toList ∧
      normalize (join ' ' (ts.map Token.word)) = join ' ' (ts.map Token.word) ∧
      tokenize (join ' ' (ts.map Token.word)) = .ok ts := by
  have hAll : ∀ text : String, Written ts text.toList → tokenize (normalize text) = .ok ts := by
    intro text h
    have hTokens := h.tokensOf_wordsOf_spaced none
    rw [← h.lowercase_eq_map, ← words_normalize] at hTokens
    rw [tokenize_normalize, hTokens]
  have hJoin := hAll _ (.join_word ts)
  rw [normalize_join_word] at hJoin
  exact ⟨hAll, .join_word ts, normalize_join_word ts, hJoin⟩

/-- Brackets and changes of kind need no blanks; the two ids of this text have one between them, and
so have the two negations. -/
theorem tokenize_normalize_of_written_glued :
    Written [.opening, .id 1, .id 7, .closing, .or, .not, .not, .id 3]
        "(1\t007 )Or NOT\u3000not3".toList ∧
      tokenize (normalize "(1\t007 )Or NOT\u3000not3") =
        .ok [.opening, .id 1, .id 7, .closing, .or, .not, .not, .id 3] := by
  have hText : "(1\t007 )Or NOT\u3000not3".toList =
      [] ++ ['('] ++ ([] ++ ['1'] ++ (['\t'] ++ ['0', '0', '7'] ++ ([' '] ++ [')'] ++
        ([] ++ ['O', 'r'] ++ ([' '] ++ ['N', 'O', 'T'] ++ (['\u3000'] ++ ['n', 'o', 't'] ++
          ([] ++ ['3'] ++ []))))))) := by
    decide +kernel
  have hGap : ∀ b : Char, isBlank b = true → ∀ c ∈ [b], isBlank c = true :=
    fun _ hb => List.forall_mem_singleton.mpr hb
  have hWritten : Written [.opening, .id 1, .id 7, .closing, .or, .not, .not, .id 3]
      "(1\t007 )Or NOT\u3000not3".toList := by
    rw [hText]
    refine .token nofun (by decide +kernel) ?_ (by decide)
    refine .token nofun (by decide +kernel) ?_ (by decide)
    refine .token (hGap _ (by decide)) (by decide +kernel) ?_ (by decide)
    refine .token (hGap _ (by decide)) (by decide +kernel) ?_ (by decide)
    refine .token nofun (by decide +kernel) ?_ (by decide)
    refine .token (hGap _ (by decide)) (by decide +kernel) ?_ (by decide)
    refine .token (hGap _ (by decide)) (by decide +kernel) ?_ (by decide)
    exact .token nofun (by decide +kernel) (.blank nofun) nofun
  exact ⟨hWritten, (tokenize_normalize_of_written _).1 _ hWritten⟩

end RuleVerdict.Logic
