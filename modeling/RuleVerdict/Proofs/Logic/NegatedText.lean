import RuleVerdict.Proofs.Logic.FreeLayout

/-!
# The text of a negation

The negation of a logic is written by putting its text in brackets behind a `not`. The characters
around a text can change its normal layout: a capital sigma has another lower case at the end of a
word, and a character without a kind counts as one of the kind before it. A text that is tokenized
has neither. It consists of blanks and of characters of a kind, so it has the same words wherever it
stands between two brackets.

* `forall_isPlain_of_tokenize`: the characters of a tokenized logic.
* `wordsOf_spaced_concat_closing`, `wordsOf_spaced_eq_of_plain`: a text with a bracket behind it,
  and with anything in front of it.
* `tokenize_normalize_negatedText`: the tokens of the negation.
-/

namespace RuleVerdict.Logic

open Text

/-! ## The characters of a tokenized logic -/

/-- A blank, or a character that has a kind of its own. -/
def IsPlain (c : Char) : Prop := isBlank c = true ∨ ∃ k, CharKind.of? c = some k

theorem mem_spaced {c : Char} {cs : List Char} (h : c ∈ cs) (last : Option CharKind) :
    plainBlank c ∈ spaced last cs := by
  induction cs generalizing last with
  | nil => cases h
  | cons d cs ih =>
    rw [spaced]
    rcases List.mem_cons.mp h with rfl | h
    · split <;> simp
    · have hRest := ih h ((CharKind.of? (plainBlank d)).or last)
      split <;> simp [hRest]

theorem exists_mem_wordsOf {c : Char} {cs : List Char} (h : c ∈ cs) (hSpace : c ≠ ' ') :
    ∃ w ∈ wordsOf cs, c ∈ w := by
  rw [← glue_pieces ' ' cs] at h
  obtain ⟨w, hw, hc⟩ := (mem_glue h).resolve_left hSpace
  have hNe : w ≠ [] := List.ne_nil_of_mem hc
  exact ⟨w, List.mem_filter.mpr ⟨hw, by simpa using hNe⟩, hc⟩

theorem forall_isPlain_of_tokenize {s : String} {ts : List Token}
    (h : tokenize (normalize s) = .ok ts) : ∀ c ∈ lowercase s.toList, IsPlain c := by
  intro c hc
  by_cases hBlank : isBlank c = true
  · exact .inl hBlank
  · have hMem := mem_spaced hc none
    rw [plainBlank, if_neg hBlank] at hMem
    have hSpace : c ≠ ' ' := by
      rintro rfl
      exact hBlank isBlank_space
    obtain ⟨w, hw, hcw⟩ := exists_mem_wordsOf hMem hSpace
    have hWord : String.ofList w ∈ words (normalize s) := by
      rw [words_normalize]
      exact List.mem_map_of_mem hw
    obtain ⟨k, hRun⟩ := exists_isRun_of_isTokenWord (isTokenWord_of_tokenize h _ hWord)
    rw [String.toList_ofList] at hRun
    exact .inr ⟨k, hRun.kind c hcw⟩

theorem not_isPlain {c : Char} (hBlank : isBlank c = false) (hKind : CharKind.of? c = none) :
    ¬IsPlain c := by
  rintro (hYes | ⟨k, hk⟩)
  · rw [hBlank] at hYes
    cases hYes
  · rw [hKind] at hk
    cases hk

theorem exists_not_isPlain_lowerAt {c : Char} (h : c = 'Σ' ∨ c = 'İ') (front back : List Char) :
    ∃ d ∈ lowerAt front c back, ¬IsPlain d := by
  rcases h with rfl | rfl
  · rw [lowerAt, if_pos rfl]
    split
    · exact ⟨'ς', List.mem_singleton.mpr rfl, not_isPlain (by decide) (by decide)⟩
    · exact ⟨'σ', List.mem_singleton.mpr rfl, not_isPlain (by decide) (by decide)⟩
  · rw [lowerAt, if_neg (by decide), if_pos rfl]
    exact ⟨'\u0307', by simp, not_isPlain (by decide) (by decide)⟩

/-- The two characters whose lower case is special are in no tokenized logic. -/
theorem ne_special_of_tokenize {s : String} {ts : List Token}
    (h : tokenize (normalize s) = .ok ts) : ∀ c ∈ s.toList, c ≠ 'Σ' ∧ c ≠ 'İ' := by
  intro c hc
  obtain ⟨front, back, hSubset⟩ := exists_lowerAt_subset hc []
  rw [← not_or]
  intro hSpecial
  obtain ⟨d, hd, hNot⟩ := exists_not_isPlain_lowerAt hSpecial front back
  exact hNot (forall_isPlain_of_tokenize h d (hSubset hd))

/-! ## A text between brackets -/

/-- What stands in front of plain characters does not change their words. -/
theorem wordsOf_spaced_eq_of_plain {cs : List Char} (h : ∀ c ∈ cs, IsPlain c)
    (last last' : Option CharKind) : wordsOf (spaced last cs) = wordsOf (spaced last' cs) := by
  have hFirst : ∀ last : Option CharKind, wordsOf (spaced last cs) = wordsOf (spaced none cs) := by
    intro last
    induction cs generalizing last with
    | nil => rfl
    | cons c cs ih =>
      obtain ⟨hc, hcs⟩ := List.forall_mem_cons.mp h
      rcases hc with hBlank | ⟨k, hk⟩
      · rw [wordsOf_spaced_cons_of_isBlank hBlank, wordsOf_spaced_cons_of_isBlank hBlank,
          ih hcs]
      · -- Only a space in front of the first character depends on what is before it.
        have hSolid := isBlank_eq_false_of_kind hk
        rw [wordsOf_spaced_cons_of_solid hSolid, wordsOf_spaced_cons_of_solid hSolid, hk,
          Option.some_or, Option.some_or]
  rw [hFirst last, hFirst last']

theorem spaced_concat_closing (last : Option CharKind) (cs : List Char) :
    spaced last (cs ++ [')']) = spaced last cs ++ [' ', ')'] := by
  induction cs generalizing last with
  | nil =>
    have hKind : CharKind.of? ')' = some .bracket := by decide
    rw [List.nil_append, spaced_cons_of_kind hKind, if_pos (.inr rfl)]
    rfl
  | cons c cs ih =>
    rw [List.cons_append, spaced, spaced, ih]
    split <;> rfl

/-- A closing bracket is a word behind the others. -/
theorem wordsOf_spaced_concat_closing (last : Option CharKind) (cs : List Char) :
    wordsOf (spaced last (cs ++ [')'])) = wordsOf (spaced last cs) ++ [[')']] := by
  rw [spaced_concat_closing, wordsOf_append_space]
  rfl

/-- Whatever follows a bracket starts apart from it. -/
theorem startsApart_spaced_bracket (cs : List Char) :
    StartsApart (spaced (some .bracket) cs) := by
  intro d hd
  cases cs with
  | nil => cases hd
  | cons c cs =>
    have hApart : (CharKind.of? (plainBlank c)).or (some .bracket) ≠ some .bracket ∨
        (CharKind.of? (plainBlank c)).or (some .bracket) = some .bracket :=
      (eq_or_ne _ _).symm
    rw [spaced, if_pos hApart] at hd
    simpa [eq_comm] using hd

/-! ## The negation -/

theorem tokensOf_append {ws vs : List String} {ts us : List Token} (hws : tokensOf ws = .ok ts)
    (hvs : tokensOf vs = .ok us) : tokensOf (ws ++ vs) = .ok (ts ++ us) := by
  induction ws generalizing ts with
  | nil =>
    cases hws
    exact hvs
  | cons w ws ih =>
    rw [tokensOf] at hws
    split at hws
    · cases hws
    · next t ht =>
      obtain ⟨rest, hRest, rfl⟩ := map_eq_ok hws
      rw [List.cons_append, tokensOf, ht, ih hRest]
      rfl

/-- A logic in brackets behind a `not`. -/
def negatedText (s : String) : String := "not (" ++ s ++ ")"

theorem lowercase_negatedText {s : String} {ts : List Token}
    (h : tokenize (normalize s) = .ok ts) :
    lowercase (negatedText s).toList =
      ['n', 'o', 't'] ++ ' ' :: (['('] ++ (lowercase s.toList ++ [')'])) := by
  have hText : (negatedText s).toList = ['n', 'o', 't', ' ', '('] ++ s.toList ++ [')'] := by
    simp [negatedText]
  have hSpecial := ne_special_of_tokenize h
  have hAll : ∀ c ∈ (negatedText s).toList, c ≠ 'Σ' ∧ c ≠ 'İ' := by
    intro c hc
    rw [hText, List.mem_append, List.mem_append] at hc
    rcases hc with (hc | hc) | hc
    · simp only [List.mem_cons, List.not_mem_nil, or_false] at hc
      rcases hc with rfl | rfl | rfl | rfl | rfl <;> decide
    · exact hSpecial c hc
    · rw [List.mem_singleton.mp hc]
      decide
  have hAround : ['n', 'o', 't', ' ', '('].map lowerChar = ['n', 'o', 't', ' ', '('] ∧
      [')'].map lowerChar = [')'] := by
    decide +kernel
  rw [lowercase, lowerFrom_of_plain hAll, lowercase, lowerFrom_of_plain hSpecial, hText,
    List.map_append, List.map_append, hAround.1, hAround.2]
  simp

/-- **The text of a negation has the tokens of the negation.** -/
theorem tokenize_normalize_negatedText {s : String} {ts : List Token}
    (h : tokenize (normalize s) = .ok ts) :
    tokenize (normalize (negatedText s)) = .ok (.not :: .opening :: (ts ++ [.closing])) := by
  have hPlain := forall_isPlain_of_tokenize h
  have hNot : IsRun .letter ['n', 'o', 't'] := by decide
  have hOpening : IsRun .bracket ['('] := by decide
  have hWords : wordsOf (spaced none (lowercase (negatedText s).toList)) =
      ['n', 'o', 't'] :: ['('] :: (wordsOf (spaced none (lowercase s.toList)) ++ [[')']]) := by
    rw [lowercase_negatedText h,
      wordsOf_spaced_whole_append (hNot.whole none)
        (startsApart_spaced_of_isBlank isBlank_space _ _),
      wordsOf_spaced_cons_of_isBlank isBlank_space,
      wordsOf_spaced_whole_append (hOpening.whole _) (startsApart_spaced_bracket _),
      wordsOf_spaced_concat_closing, wordsOf_spaced_eq_of_plain hPlain _ none]
  rw [tokenize_normalize, words_normalize] at h ⊢
  have hClosing : tokensOf [String.ofList [')']] = .ok [.closing] := tokensOf_words [.closing]
  have hInner := tokensOf_append h hClosing
  have hWordNot : Token.ofWord? (String.ofList ['n', 'o', 't']) = some .not := by decide +kernel
  have hWordOpening : Token.ofWord? (String.ofList ['(']) = some .opening := by decide +kernel
  rw [hWords, List.map_cons, List.map_cons, List.map_append, List.map_singleton, tokensOf,
    hWordNot, tokensOf, hWordOpening, hInner]
  rfl

end RuleVerdict.Logic
