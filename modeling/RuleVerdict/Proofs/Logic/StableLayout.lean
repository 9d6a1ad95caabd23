import RuleVerdict.Proofs.Logic.Spacing
import RuleVerdict.Proofs.Text.LowercaseFixed
import Mathlib.Tactic.ByContra

/-!
# Normal layout is stable

The normal layout of any text is in normal layout itself. A second pass sees other neighbours than
the first, since spaces have been put in and taken out. But a character without a kind counts as one
of the last kind before it, and spaces have none, so each character counts as one of the same kind
in both passes, and the words of the first pass are found again by the second.

* `normalize_normalize`: the normal layout is in normal layout.
* `filter_normalizeChars`: no character is lost, added or moved, apart from blanks.
* `normalize_canonical`: what is known of the normal layout of any text.
-/

namespace RuleVerdict.Logic

open Text

/-! ## The characters of the layout -/

theorem filter_spaced (last : Option CharKind) (cs : List Char) :
    (spaced last cs).filter (fun c => c != ' ') = cs.filter fun c => !isBlank c := by
  induction cs generalizing last with
  | nil => rfl
  | cons c cs ih =>
    cases hBlank : isBlank c with
    | true =>
      rw [spaced_cons_of_isBlank hBlank]
      split <;> simp [hBlank, ih]
    | false =>
      rw [spaced_cons_of_solid hBlank]
      split <;> simp [hBlank, ne_space_of_solid hBlank, ih]

theorem flatten_wordsOf (cs : List Char) : (wordsOf cs).flatten = cs.filter fun c => c != ' ' := by
  have hPieces : (pieces ' ' cs).flatten = cs.filter fun c => c != ' ' := by
    induction cs with
    | nil => rfl
    | cons c cs ih =>
      rw [pieces]
      split
      · next hSpace => simp [hSpace, ih]
      · next hOther =>
        cases hRest : pieces ' ' cs with
        | nil => exact absurd hRest (pieces_ne_nil ' ' cs)
        | cons p ps =>
          rw [hRest] at ih
          simp [hOther, ← ih]
  rw [wordsOf, List.flatten_filter_not_isEmpty, hPieces]

theorem filter_glue {ws : List (List Char)} (h : ∀ w ∈ ws, ' ' ∉ w) :
    (glue ' ' ws).filter (fun c => c != ' ') = ws.flatten := by
  have hWhole : ∀ w ∈ ws, w.filter (fun c => c != ' ') = w := by
    intro w hw
    rw [List.filter_eq_self]
    intro c hc
    have hOther : c ≠ ' ' := fun hSpace => h w hw (hSpace ▸ hc)
    simpa using hOther
  induction ws with
  | nil => rfl
  | cons w ws ih =>
    obtain ⟨-, hRest⟩ := List.forall_mem_cons.mp h
    obtain ⟨hw, hWholes⟩ := List.forall_mem_cons.mp hWhole
    cases ws with
    | nil => simpa [glue] using hw
    | cons v ws => simpa [glue, hw] using ih hRest hWholes

/-- Apart from blanks the layout has the characters of the text in lower case, in order. -/
theorem filter_normalizeChars (cs : List Char) :
    (normalizeChars cs).filter (fun c => c != ' ') = (lowercase cs).filter fun c => !isBlank c := by
  rw [normalizeChars, filter_glue fun w hw => not_mem_of_mem_wordsOf hw, flatten_wordsOf,
    filter_spaced]

theorem mem_normalizeChars {cs : List Char} {c : Char} (h : c ∈ normalizeChars cs)
    (hSpace : c ≠ ' ') : c ∈ lowercase cs ∧ isBlank c = false := by
  have hMem : c ∈ (normalizeChars cs).filter fun c => c != ' ' :=
    List.mem_filter.mpr ⟨h, by simpa using hSpace⟩
  rw [filter_normalizeChars, List.mem_filter] at hMem
  exact ⟨hMem.1, by simpa using hMem.2⟩

theorem lowercase_normalizeChars (cs : List Char) :
    lowercase (normalizeChars cs) = normalizeChars cs := by
  apply lowercase_of_isFixed
  intro c hc
  by_cases hSpace : c = ' '
  · subst hSpace
    decide +kernel
  · exact isFixed_of_mem_lowercase (mem_normalizeChars hc hSpace).1

theorem normalizeChars_normalizeChars (cs : List Char) :
    normalizeChars (normalizeChars cs) = normalizeChars cs := by
  have hWords := wordsOf_spaced_glue_of_settled (settled_wordsOf_spaced none (lowercase cs))
  rw [normalizeChars, lowercase_normalizeChars, normalizeChars, hWords]

/-- The normal layout is in normal layout. -/
theorem normalize_normalize (s : String) : normalize (normalize s) = normalize s := by
  rw [normalize, normalize, String.toList_ofList, normalizeChars_normalizeChars]

/-! ## Spaces -/

/-- Spaces stand between words only: unless there is nothing at all, no piece between them is
empty. -/
theorem nil_not_mem_pieces_normalizeChars (cs : List Char) (h : normalizeChars cs ≠ []) :
    [] ∉ pieces ' ' (normalizeChars cs) := by
  have hNe : wordsOf (spaced none (lowercase cs)) ≠ [] := by
    intro hNil
    apply h
    rw [normalizeChars, hNil]
    rfl
  rw [normalizeChars, pieces_glue hNe fun _ hw => not_mem_of_mem_wordsOf hw]
  exact fun hMem => ne_nil_of_mem_wordsOf hMem rfl

theorem head?_normalizeChars_ne (cs : List Char) : (normalizeChars cs).head? ≠ some ' ' := by
  intro hHead
  obtain ⟨rest, hRest⟩ := List.head?_eq_some_iff.mp hHead
  apply nil_not_mem_pieces_normalizeChars cs (by simp [hRest])
  simp [hRest, pieces]

theorem getLast?_normalizeChars_ne (cs : List Char) : (normalizeChars cs).getLast? ≠ some ' ' := by
  intro hLast
  obtain ⟨front, hFront⟩ := List.getLast?_eq_some_iff.mp hLast
  apply nil_not_mem_pieces_normalizeChars cs (by simp [hFront])
  rw [hFront, pieces_append_sep]
  simp [pieces]

theorem not_infix_normalizeChars (cs : List Char) : ¬[' ', ' '] <:+: normalizeChars cs := by
  rintro ⟨front, rest, hText⟩
  have hText : normalizeChars cs = front ++ ' ' :: (' ' :: rest) := by simp [← hText]
  apply nil_not_mem_pieces_normalizeChars cs (by simp [hText])
  rw [hText, pieces_append_sep]
  simp [pieces]

/-! ## Words -/

theorem exists_whole_of_mem_words {s w : String} (h : w ∈ words (normalize s)) :
    ∃ before kind, Whole before kind w.toList := by
  rw [words_normalize] at h
  obtain ⟨v, hv, rfl⟩ := List.mem_map.mp h
  rw [String.toList_ofList]
  exact (settled_wordsOf_spaced none _).exists_whole v hv

/-- A bracket is a word of its own. -/
theorem eq_singleton_of_bracket {s w : String} (h : w ∈ words (normalize s)) {c : Char}
    (hc : c ∈ w.toList) (hBracket : CharKind.of? c = some .bracket) : w.toList = [c] := by
  obtain ⟨before, kind, hWhole⟩ := exists_whole_of_mem_words h
  have hOne := hWhole.alone (hWhole.eq_of_kind hc hBracket)
  obtain ⟨d, hd⟩ := List.length_eq_one_iff.mp hOne
  rw [hd, List.mem_singleton] at hc
  rw [hd, hc]

/-- **The normal layout is canonical.** Whatever the text, its normal layout is in normal layout;
apart from blanks it has the characters of the text in lower case, each once and in order; its only
blanks are single spaces between its words; every bracket is a word of its own; and no word has both
a digit and a letter. -/
theorem normalize_canonical (s : String) :
    normalize (normalize s) = normalize s ∧
    (normalize s).toList.filter (fun c => c != ' ') =
      (lowercase s.toList).filter (fun c => !isBlank c) ∧
    (normalize s).toList.head? ≠ some ' ' ∧ (normalize s).toList.getLast? ≠ some ' ' ∧
    ¬[' ', ' '] <:+: (normalize s).toList ∧
    (∀ c ∈ (normalize s).toList, isBlank c = true → c = ' ') ∧
    (∀ w ∈ words (normalize s), '(' ∈ w.toList ∨ ')' ∈ w.toList → w = "(" ∨ w = ")") ∧
    ∀ w ∈ words (normalize s),
      ¬((∃ c ∈ w.toList, '0' ≤ c ∧ c ≤ '9') ∧ ∃ c ∈ w.toList, 'a' ≤ c ∧ c ≤ 'z') := by
  have hChars : (normalize s).toList = normalizeChars s.toList := String.toList_ofList
  refine ⟨normalize_normalize s, ?_, ?_, ?_, ?_, ?_, ?_, ?_⟩
  · rw [hChars, filter_normalizeChars]
  · rw [hChars]
    exact head?_normalizeChars_ne s.toList
  · rw [hChars]
    exact getLast?_normalizeChars_ne s.toList
  · rw [hChars]
    exact not_infix_normalizeChars s.toList
  · intro c hc hBlank
    rw [hChars] at hc
    by_contra hSpace
    rw [(mem_normalizeChars hc hSpace).2] at hBlank
    cases hBlank
  · intro w hw hBracket
    rcases hBracket with hOpening | hClosing
    · exact .inl (String.toList_inj.mp (eq_singleton_of_bracket hw hOpening (by decide)))
    · exact .inr (String.toList_inj.mp (eq_singleton_of_bracket hw hClosing (by decide)))
  · rintro w hw ⟨⟨c, hc, hDigit⟩, ⟨d, hd, hLetter⟩⟩
    obtain ⟨before, kind, hWhole⟩ := exists_whole_of_mem_words hw
    have hc := hWhole.eq_of_kind hc (of?_of_isDigit (by simpa [isDigit] using hDigit))
    have hd := hWhole.eq_of_kind hd (of?_of_letter hLetter)
    rw [hc] at hd
    cases hd

/-- Symbols stay with the character before them, so does the dot above that `İ` leaves behind. -/
theorem normalize_canonical_symbols :
    normalize "\u00a0-1AND\t(&2-\u0130x)" = "- 1 and ( & 2- i\u0307x )" ∧
      normalize "- 1 and ( & 2- i\u0307x )" = "- 1 and ( & 2- i\u0307x )" := by
  have hLayout : normalize "\u00a0-1AND\t(&2-\u0130x)" = "- 1 and ( & 2- i\u0307x )" := by
    decide +kernel
  have hAgain := (normalize_canonical "\u00a0-1AND\t(&2-\u0130x)").1
  rw [hLayout] at hAgain
  exact ⟨hLayout, hAgain⟩

end RuleVerdict.Logic
