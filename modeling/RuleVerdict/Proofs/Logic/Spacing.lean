import RuleVerdict.Logic.Layout

/-!
# Spacing

Spaces go in where the kind of character changes, and a character without a kind counts as one of
the last kind before it. So a text is cut into words that are whole (`Whole`): each counts as one
of a single kind, with which the next one begins. A row of such words is settled (`Settled`), and
when its words are written with single spaces between them, spacing finds just these words again.

* `settled_wordsOf_spaced`: the words that spacing makes are settled.
* `wordsOf_spaced_whole_append`: spacing leaves a whole word whole.
* `wordsOf_spaced_glue_of_settled`: spacing finds settled words again.
-/

namespace RuleVerdict.Logic

open Text

/-! ## Kinds of characters -/

/-- The code points of the blanks. -/
def blankCodes : List Nat :=
  [9, 10, 11, 12, 13, 0x20, 0x85, 0xa0, 0x1680, 0x2000, 0x2001, 0x2002, 0x2003, 0x2004, 0x2005,
    0x2006, 0x2007, 0x2008, 0x2009, 0x200a, 0x2028, 0x2029, 0x202f, 0x205f, 0x3000]

theorem le_iff_toNat_le {a b : Char} : a ≤ b ↔ a.toNat ≤ b.toNat := Iff.rfl

theorem toNat_mem_blankCodes {c : Char} (h : isBlank c = true) : c.toNat ∈ blankCodes := by
  simp only [isBlank, Bool.or_eq_true, Bool.and_eq_true, decide_eq_true_eq, le_iff_toNat_le,
    ← Char.toNat_inj, Char.reduceToNat] at h
  simp only [blankCodes, List.mem_cons, List.not_mem_nil, or_false]
  omega

/-- A blank has no kind of its own. -/
theorem of?_eq_none_of_isBlank {c : Char} (h : isBlank c = true) : CharKind.of? c = none := by
  have hNone : ∀ n ∈ blankCodes, CharKind.of? (Char.ofNat n) = none := by decide +kernel
  have hc := hNone _ (toNat_mem_blankCodes h)
  rwa [Char.ofNat_toNat] at hc

theorem isBlank_eq_false_of_kind {c : Char} {k : CharKind} (h : CharKind.of? c = some k) :
    isBlank c = false := by
  rw [Bool.eq_false_iff]
  intro hBlank
  rw [of?_eq_none_of_isBlank hBlank] at h
  cases h

theorem of?_of_isDigit {c : Char} (h : isDigit c = true) : CharKind.of? c = some .digit := by
  rw [CharKind.of?, if_pos h]

theorem of?_of_letter {c : Char} (h : 'a' ≤ c ∧ c ≤ 'z') : CharKind.of? c = some .letter := by
  have hDigit : isDigit c = false := by
    rw [isDigit, Bool.and_eq_false_iff]
    right
    have hLe : 97 ≤ c.toNat := h.1
    simp only [decide_eq_false_iff_not, le_iff_toNat_le, Char.reduceToNat]
    omega
  simp [CharKind.of?, hDigit, h]

/-! ## Words of a text -/

theorem wordsOf_append_space (xs ys : List Char) :
    wordsOf (xs ++ ' ' :: ys) = wordsOf xs ++ wordsOf ys := by
  rw [wordsOf, pieces_append_sep, List.filter_append, wordsOf, wordsOf]

theorem wordsOf_space_cons (cs : List Char) : wordsOf (' ' :: cs) = wordsOf cs :=
  wordsOf_append_space [] cs

/-- Nothing, or a space, comes first. -/
def StartsApart (cs : List Char) : Prop := ∀ c ∈ cs.head?, c = ' '

theorem wordsOf_eq_singleton {w : List Char} (hSpace : ' ' ∉ w) (hNe : w ≠ []) :
    wordsOf w = [w] := by
  rw [wordsOf, pieces_of_not_mem hSpace]
  exact List.filter_cons_of_pos (by simpa using hNe)

theorem wordsOf_append {w cs : List Char} (hSpace : ' ' ∉ w) (hNe : w ≠ [])
    (hApart : StartsApart cs) : wordsOf (w ++ cs) = w :: wordsOf cs := by
  have hWord := wordsOf_eq_singleton hSpace hNe
  cases cs with
  | nil =>
    rw [List.append_nil, hWord]
    rfl
  | cons c cs =>
    obtain rfl : c = ' ' := hApart c rfl
    rw [wordsOf_append_space, hWord, wordsOf_space_cons, List.singleton_append]

/-! ## Spacing character by character -/

theorem spaced_cons_of_isBlank {c : Char} (h : isBlank c = true) (last : Option CharKind)
    (cs : List Char) :
    spaced last (c :: cs) =
      if last = some .bracket then ' ' :: ' ' :: spaced last cs else ' ' :: spaced last cs := by
  have hKind : CharKind.of? ' ' = none := by decide
  simp [spaced, plainBlank, h, hKind]

theorem wordsOf_spaced_cons_of_isBlank {c : Char} (h : isBlank c = true)
    (last : Option CharKind) (cs : List Char) :
    wordsOf (spaced last (c :: cs)) = wordsOf (spaced last cs) := by
  rw [spaced_cons_of_isBlank h]
  split
  · rw [wordsOf_space_cons, wordsOf_space_cons]
  · rw [wordsOf_space_cons]

theorem startsApart_spaced_of_isBlank {c : Char} (h : isBlank c = true) (last : Option CharKind)
    (cs : List Char) : StartsApart (spaced last (c :: cs)) := by
  intro d hd
  rw [spaced_cons_of_isBlank h] at hd
  split at hd <;> simpa [eq_comm] using hd

theorem spaced_cons_of_solid {c : Char} (h : isBlank c = false) (last : Option CharKind)
    (cs : List Char) :
    spaced last (c :: cs) =
      if (CharKind.of? c).or last ≠ last ∨ (CharKind.of? c).or last = some .bracket then
        ' ' :: c :: spaced ((CharKind.of? c).or last) cs
      else c :: spaced ((CharKind.of? c).or last) cs := by
  have hPlain : plainBlank c = c := if_neg (by simp [h])
  simp only [spaced, hPlain]

/-- Whether a space is put before a character makes no difference to the words. -/
theorem wordsOf_spaced_cons_of_solid {c : Char} (h : isBlank c = false) (last : Option CharKind)
    (cs : List Char) :
    wordsOf (spaced last (c :: cs)) = wordsOf (c :: spaced ((CharKind.of? c).or last) cs) := by
  rw [spaced_cons_of_solid h]
  split
  · rw [wordsOf_space_cons]
  · rfl

theorem ne_space_of_solid {c : Char} (h : isBlank c = false) : c ≠ ' ' := by
  rintro rfl
  exact absurd h (by decide)

/-! ## Words that are left whole -/

/-- A word that counts as one of a kind behind a text of kind `last`: the first character decides,
the others have no kind or the same one, and a word that counts as a bracket is a single
character. -/
structure Whole (last kind : Option CharKind) (w : List Char) : Prop where
  first : ∃ c ∈ w.head?, kind = (CharKind.of? c).or last
  keeps : ∀ c ∈ w, (CharKind.of? c).or kind = kind
  solid : ∀ c ∈ w, isBlank c = false
  alone : kind = some .bracket → w.length = 1

/-- Words each of which is left whole behind the words before it. -/
inductive Settled : Option CharKind → List (List Char) → Prop
  | nil {last : Option CharKind} : Settled last []
  | cons {last kind : Option CharKind} {w : List Char} {ws : List (List Char)}
      (hWord : Whole last kind w) (hRest : Settled kind ws) : Settled last (w :: ws)

namespace Whole

variable {last kind : Option CharKind} {w : List Char}

theorem single {c : Char} (h : isBlank c = false) :
    Whole last ((CharKind.of? c).or last) [c] := by
  refine ⟨⟨c, rfl, rfl⟩, ?_, by simpa using h, fun _ => rfl⟩
  simp only [List.mem_singleton, forall_eq]
  cases CharKind.of? c <;> rfl

/-- A character of the same kind goes in front, unless the word counts as a bracket. -/
theorem cons {c d : Char} (h : isBlank c = false)
    (hBracket : (CharKind.of? c).or last ≠ some .bracket)
    (hw : Whole ((CharKind.of? c).or last) ((CharKind.of? c).or last) (d :: w)) :
    Whole last ((CharKind.of? c).or last) (c :: d :: w) where
  first := ⟨c, rfl, rfl⟩
  keeps := List.forall_mem_cons.mpr ⟨(single h).keeps c List.mem_cons_self, hw.keeps⟩
  solid := List.forall_mem_cons.mpr ⟨h, hw.solid⟩
  alone := fun hKind => absurd hKind hBracket

theorem ne_nil (h : Whole last kind w) : w ≠ [] := by
  obtain ⟨c, hc, -⟩ := h.first
  exact List.ne_nil_of_mem (List.mem_of_mem_head? hc)

theorem not_mem_space (h : Whole last kind w) : ' ' ∉ w := fun hMem =>
  absurd (h.solid ' ' hMem) (by decide)

/-- A character that has a kind has that of the word. -/
theorem eq_of_kind (h : Whole last kind w) {c : Char} (hc : c ∈ w) {k : CharKind}
    (hk : CharKind.of? c = some k) : kind = some k := by
  have hKeeps := h.keeps c hc
  rw [hk] at hKeeps
  exact hKeeps.symm

end Whole

/-! ## Spacing settled words -/

theorem spaced_append_of_keeps {kind : Option CharKind} {w : List Char}
    (hKeeps : ∀ c ∈ w, (CharKind.of? c).or kind = kind) (hSolid : ∀ c ∈ w, isBlank c = false)
    (hBracket : kind ≠ some .bracket) (cs : List Char) :
    spaced kind (w ++ cs) = w ++ spaced kind cs := by
  induction w with
  | nil => rfl
  | cons c w ih =>
    obtain ⟨hKind, hKeeps⟩ := List.forall_mem_cons.mp hKeeps
    obtain ⟨hBlank, hSolid⟩ := List.forall_mem_cons.mp hSolid
    rw [List.cons_append, spaced_cons_of_solid hBlank, hKind, if_neg (by simp [hBracket]),
      ih hKeeps hSolid]
    rfl

theorem wordsOf_spaced_whole_append {last kind : Option CharKind} {w cs : List Char}
    (h : Whole last kind w) (hApart : StartsApart (spaced kind cs)) :
    wordsOf (spaced last (w ++ cs)) = w :: wordsOf (spaced kind cs) := by
  have hWord := wordsOf_append h.not_mem_space h.ne_nil hApart
  obtain ⟨c, hc, hKind⟩ := h.first
  obtain ⟨v, rfl⟩ := List.head?_eq_some_iff.mp hc
  obtain ⟨hBlank, hSolid⟩ := List.forall_mem_cons.mp h.solid
  obtain ⟨-, hKeeps⟩ := List.forall_mem_cons.mp h.keeps
  have hRest : spaced kind (v ++ cs) = v ++ spaced kind cs := by
    by_cases hBracket : kind = some .bracket
    · obtain rfl : v = [] := by simpa using h.alone hBracket
      rfl
    · exact spaced_append_of_keeps hKeeps hSolid hBracket cs
  rw [List.cons_append, wordsOf_spaced_cons_of_solid hBlank, ← hKind, hRest]
  exact hWord

/-- Settled words are found again. -/
theorem wordsOf_spaced_glue_of_settled {last : Option CharKind} {ws : List (List Char)}
    (h : Settled last ws) : wordsOf (spaced last (glue ' ' ws)) = ws := by
  induction h with
  | nil => rfl
  | @cons last kind w ws hWord hRest ih =>
    cases ws with
    | nil =>
      have hFound : wordsOf (spaced last (w ++ [])) = w :: wordsOf (spaced kind []) :=
        wordsOf_spaced_whole_append hWord nofun
      rwa [List.append_nil] at hFound
    | cons v ws =>
      have hApart := startsApart_spaced_of_isBlank isBlank_space kind (glue ' ' (v :: ws))
      rw [glue, wordsOf_spaced_whole_append hWord hApart,
        wordsOf_spaced_cons_of_isBlank isBlank_space, ih]

/-! ## What spacing makes -/

theorem wordsOf_cons_cons {c d : Char} (hc : c ≠ ' ') (hd : d ≠ ' ') (cs : List Char) :
    ∃ w ws, wordsOf (d :: cs) = (d :: w) :: ws ∧ wordsOf (c :: d :: cs) = (c :: d :: w) :: ws := by
  cases hPieces : pieces ' ' cs with
  | nil => exact absurd hPieces (pieces_ne_nil ' ' cs)
  | cons p ps =>
    refine ⟨p, ps.filter fun w => !w.isEmpty, ?_, ?_⟩
    · simp [wordsOf, pieces, hd, hPieces]
    · simp [wordsOf, pieces, hc, hd, hPieces]

/-- What follows a character either starts apart from it or counts as the same kind. -/
theorem startsApart_spaced_or (kind : Option CharKind) (cs : List Char) :
    StartsApart (spaced kind cs) ∨
      ∃ d ds, cs = d :: ds ∧ isBlank d = false ∧ (CharKind.of? d).or kind = kind ∧
        kind ≠ some .bracket := by
  cases cs with
  | nil => exact .inl nofun
  | cons d ds =>
    cases hBlank : isBlank d with
    | true => exact .inl (startsApart_spaced_of_isBlank hBlank kind ds)
    | false =>
      rw [spaced_cons_of_solid hBlank]
      split
      · exact .inl fun c hc => (Option.some.inj hc).symm
      · next hSame =>
        obtain ⟨hKind, hBracket⟩ := not_or.mp hSame
        have hKind := Decidable.of_not_not hKind
        exact .inr ⟨d, ds, rfl, hBlank, hKind, fun h => hBracket (hKind.trans h)⟩

theorem settled_wordsOf_spaced (last : Option CharKind) (cs : List Char) :
    Settled last (wordsOf (spaced last cs)) := by
  induction cs generalizing last with
  | nil => exact .nil
  | cons c cs ih =>
    cases hBlank : isBlank c with
    | true =>
      rw [wordsOf_spaced_cons_of_isBlank hBlank]
      exact ih last
    | false =>
      have hRest := ih ((CharKind.of? c).or last)
      rw [wordsOf_spaced_cons_of_solid hBlank]
      rcases startsApart_spaced_or ((CharKind.of? c).or last) cs with
        hApart | ⟨d, ds, rfl, hd, hKind, hBracket⟩
      · have hWord := wordsOf_append (w := [c]) (by simpa using (ne_space_of_solid hBlank).symm)
          (by simp) hApart
        rw [List.singleton_append] at hWord
        rw [hWord]
        exact .cons (.single hBlank) hRest
      · -- The character joins the first word of the rest.
        have hSpaced : spaced ((CharKind.of? c).or last) (d :: ds) =
            d :: spaced ((CharKind.of? c).or last) ds := by
          rw [spaced_cons_of_solid hd, hKind, if_neg (by simp [hBracket])]
        rw [hSpaced] at hRest ⊢
        obtain ⟨w, ws, hHere, hJoined⟩ := wordsOf_cons_cons (ne_space_of_solid hBlank)
          (ne_space_of_solid hd) (spaced ((CharKind.of? c).or last) ds)
        rw [hHere] at hRest
        rw [hJoined]
        cases hRest with
        | cons hWord hRest =>
          obtain ⟨e, he, hFirst⟩ := hWord.first
          obtain rfl := Option.some.inj he
          rw [hKind] at hFirst
          subst hFirst
          exact .cons (hWord.cons hBlank hBracket) hRest

theorem Settled.exists_whole {last : Option CharKind} {ws : List (List Char)}
    (h : Settled last ws) : ∀ w ∈ ws, ∃ before kind, Whole before kind w := by
  induction h with
  | nil => nofun
  | cons hWord hRest ih => exact List.forall_mem_cons.mpr ⟨⟨_, _, hWord⟩, ih⟩

end RuleVerdict.Logic
