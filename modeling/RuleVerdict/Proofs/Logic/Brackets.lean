import RuleVerdict.Logic.Segment

/-!
# Balanced brackets

The segments of a word list are found by counting brackets. They are the only way to write the
words as single words and groups with balanced brackets inside.

* `balanced_iff_count`: brackets are balanced if they are counted right.
* `segments_eq_ok_iff`: which segments a word list has.
* `exists_segments_iff`: it has some exactly if its brackets are balanced.
* `operands_of_not_mem`, `operands_append_cons`: cutting segments at a word.
* `operands_split`: where the operands of a cut stand.
-/

namespace RuleVerdict.Logic

/-- How many brackets are open behind some words, if `n` were open before and none is closed that
was not open. -/
def openAfter? : Nat → List String → Option Nat
  | n, [] => some n
  | n, w :: ws =>
    if w = "(" then openAfter? (n + 1) ws
    else if w = ")" then
      match n with
      | 0 => none
      | n + 1 => openAfter? n ws
    else openAfter? n ws

/-- Every bracket is closed, and none that was not open. -/
def Balanced (ws : List String) : Prop := openAfter? 0 ws = some 0

theorem openAfter?_opening (n : Nat) (ws : List String) :
    openAfter? n ("(" :: ws) = openAfter? (n + 1) ws := by
  simp [openAfter?]

theorem openAfter?_closing_zero (ws : List String) : openAfter? 0 (")" :: ws) = none := by
  simp [openAfter?]

theorem openAfter?_closing_succ (n : Nat) (ws : List String) :
    openAfter? (n + 1) (")" :: ws) = openAfter? n ws := by
  simp [openAfter?]

theorem openAfter?_word {w : String} (ho : w ≠ "(") (hc : w ≠ ")") (n : Nat) (ws : List String) :
    openAfter? n (w :: ws) = openAfter? n ws := by
  simp [openAfter?, ho, hc]

theorem openAfter?_append (n : Nat) (us ws : List String) :
    openAfter? n (us ++ ws) = (openAfter? n us).bind fun m => openAfter? m ws := by
  induction us generalizing n with
  | nil => rfl
  | cons u us ih =>
    simp only [List.cons_append, openAfter?]
    split
    · exact ih _
    · split
      · cases n with
        | zero => rfl
        | succ n => exact ih n
      · exact ih n

/-- Brackets that were open before do not matter. -/
theorem openAfter?_add {n m : Nat} {ws : List String} (h : openAfter? n ws = some m) (k : Nat) :
    openAfter? (n + k) ws = some (m + k) := by
  induction ws generalizing n with
  | nil => cases h; rfl
  | cons w ws ih =>
    simp only [openAfter?] at h ⊢
    split at h
    · next hw =>
      rw [if_pos hw, Nat.add_right_comm]
      exact ih h
    · next hw =>
      rw [if_neg hw]
      split at h
      · next hw' =>
        rw [if_pos hw']
        cases n with
        | zero => cases h
        | succ n =>
          rw [Nat.add_right_comm]
          exact ih h
      · next hw' =>
        rw [if_neg hw']
        exact ih h

theorem forall_prefix_cons {P : List String → Prop} {w : String} {ws : List String} :
    (∀ p, p <+: w :: ws → P p) ↔ P [] ∧ ∀ p, p <+: ws → P (w :: p) := by
  constructor
  · intro h
    exact ⟨h [] List.nil_prefix, fun p hp => h (w :: p) (List.cons_prefix_cons.mpr ⟨rfl, hp⟩)⟩
  · rintro ⟨hNil, hCons⟩ p hp
    rcases List.prefix_cons_iff.mp hp with rfl | ⟨q, rfl, hq⟩
    · exact hNil
    · exact hCons q hq

/-- What is open is what was open and what has been opened, less what has been closed; nowhere has
more been closed than that. -/
theorem openAfter?_eq_some_iff {n m : Nat} {ws : List String} :
    openAfter? n ws = some m ↔
      (∀ p, p <+: ws → p.count ")" ≤ n + p.count "(") ∧ n + ws.count "(" = m + ws.count ")" := by
  induction ws generalizing n with
  | nil => simp [openAfter?, List.prefix_nil]
  | cons w ws ih =>
    rw [forall_prefix_cons]
    by_cases hOpen : w = "("
    · subst hOpen
      rw [openAfter?_opening, ih]
      simp [Nat.add_assoc, Nat.add_comm 1]
    by_cases hClose : w = ")"
    · subst hClose
      cases n with
      | zero =>
        rw [openAfter?_closing_zero]
        simp only [reduceCtorEq, false_iff]
        rintro ⟨⟨-, h⟩, -⟩
        have hFirst := h [] List.nil_prefix
        simp at hFirst
      | succ n =>
        rw [openAfter?_closing_succ, ih]
        simp only [List.count_nil, Nat.zero_le, true_and, List.count_cons_self,
          List.count_cons_of_ne hOpen]
        refine and_congr (forall₂_congr fun p _ => ?_) ?_ <;> omega
    · rw [openAfter?_word hOpen hClose, ih]
      simp [hOpen, hClose]

theorem balanced_iff_count {ws : List String} :
    Balanced ws ↔ (∀ p, p <+: ws → p.count ")" ≤ p.count "(") ∧ ws.count "(" = ws.count ")" := by
  rw [Balanced, openAfter?_eq_some_iff]
  simp only [Nat.zero_add]

namespace Balanced

theorem nil : Balanced [] := rfl

theorem word {w : String} (ho : w ≠ "(") (hc : w ≠ ")") : Balanced [w] := by
  simp [Balanced, openAfter?, ho, hc]

theorem append {us ws : List String} (hu : Balanced us) (hw : Balanced ws) :
    Balanced (us ++ ws) := by
  rw [Balanced, openAfter?_append, hu]
  exact hw

theorem group {ws : List String} (h : Balanced ws) : Balanced ("(" :: ws ++ [")"]) := by
  have hin : openAfter? 1 ws = some 1 := by simpa using openAfter?_add h 1
  rw [Balanced, openAfter?_append]
  simp [openAfter?, hin]

end Balanced

/-- A single word that is no bracket, or a group with balanced brackets inside. -/
def Segment.Closed : Segment → Prop
  | .word w => w ≠ "(" ∧ w ≠ ")"
  | .group inner => Balanced inner

theorem balanced_flatMap_words {segs : List Segment} (h : ∀ s ∈ segs, s.Closed) :
    Balanced (segs.flatMap Segment.words) := by
  induction segs with
  | nil => exact .nil
  | cons s segs ih =>
    rw [List.flatMap_cons]
    refine .append ?_ (ih fun r hr => h r (List.mem_cons_of_mem s hr))
    have hs := h s List.mem_cons_self
    cases s with
    | word w => exact .word hs.1 hs.2
    | group inner => exact hs.group

/-! ## Finding segments -/

/-- Inside a bracket the words pile up as long as the bracket stays open. -/
theorem segmentsFrom_inside {n m : Nat} {us : List String} (h : openAfter? n us = some m)
    (inner ws : List String) :
    segmentsFrom (n + 1) inner (us ++ ws) = segmentsFrom (m + 1) (us.reverse ++ inner) ws := by
  induction us generalizing n inner with
  | nil => cases h; rfl
  | cons u us ih =>
    simp only [openAfter?] at h
    simp only [List.cons_append, List.reverse_cons, List.append_assoc, segmentsFrom,
      Nat.add_one_ne_zero, if_false]
    split at h
    · next hu =>
      rw [if_pos hu]
      exact ih h _
    · next hu =>
      rw [if_neg hu]
      split at h
      · next hu' =>
        cases n with
        | zero => cases h
        | succ n =>
          rw [if_pos hu', if_neg (by omega)]
          exact ih h _
      · next hu' =>
        rw [if_neg hu']
        exact ih h _

theorem segmentsFrom_words_append {s : Segment} (h : s.Closed) (ws : List String) :
    segmentsFrom 0 [] (s.words ++ ws) = (segmentsFrom 0 [] ws).map (s :: ·) := by
  cases s with
  | word w => simp [Segment.words, segmentsFrom, h.1, h.2]
  | group inner =>
    have hin := segmentsFrom_inside h [] (")" :: ws)
    simp only [Segment.words, List.cons_append, List.append_assoc, List.nil_append]
    rw [segmentsFrom, if_pos rfl, if_pos rfl, hin]
    simp [segmentsFrom]

theorem segments_flatMap_words {segs : List Segment} (h : ∀ s ∈ segs, s.Closed) :
    segments (segs.flatMap Segment.words) = .ok segs := by
  induction segs with
  | nil => rfl
  | cons s segs ih =>
    have hrest := ih fun r hr => h r (List.mem_cons_of_mem s hr)
    rw [segments] at hrest ⊢
    rw [List.flatMap_cons, segmentsFrom_words_append (h s List.mem_cons_self), hrest]
    rfl

theorem closed_of_segmentsFrom {ws : List String} {depth : Nat} {inner : List String}
    {segs : List Segment} (h : segmentsFrom depth inner ws = .ok segs)
    (hinner : ∀ n, depth = n + 1 → openAfter? 0 inner.reverse = some n) :
    ∀ s ∈ segs, s.Closed := by
  induction ws generalizing depth inner segs with
  | nil =>
    unfold segmentsFrom at h
    split at h
    · cases h; simp
    · cases h
  | cons w ws ih =>
    unfold segmentsFrom at h
    split at h
    · next h0 =>
      split at h
      · exact ih h fun n hn => by cases hn; rfl
      · next ho =>
        split at h
        · cases h
        · next hc =>
          obtain ⟨rest, hr, rfl⟩ := map_eq_ok h
          have hrest := ih hr (by simp)
          exact List.forall_mem_cons.mpr ⟨⟨ho, hc⟩, hrest⟩
    · next h0 =>
      obtain ⟨n, rfl⟩ := Nat.exists_eq_succ_of_ne_zero h0
      have hn := hinner n rfl
      split at h
      · next ho =>
        refine ih h fun m hm => ?_
        rw [List.reverse_cons, openAfter?_append, hn]
        cases hm
        simp [openAfter?, ho]
      · next ho =>
        split at h
        · next hc =>
          split at h
          · next h1 =>
            obtain ⟨rest, hr, rfl⟩ := map_eq_ok h
            have hrest := ih hr (by simp)
            obtain rfl : n = 0 := by omega
            exact List.forall_mem_cons.mpr ⟨hn, hrest⟩
          · next h1 =>
            refine ih h fun m hm => ?_
            obtain rfl : n = m + 1 := by omega
            rw [List.reverse_cons, openAfter?_append, hn]
            simp [openAfter?, hc]
        · next hc =>
          refine ih h fun m hm => ?_
          cases hm
          rw [List.reverse_cons, openAfter?_append, hn]
          simp [openAfter?, ho, hc]

/-- The segments of a word list are the only way to write it as closed segments. -/
theorem segments_eq_ok_iff {ws : List String} {segs : List Segment} :
    segments ws = .ok segs ↔ segs.flatMap Segment.words = ws ∧ ∀ s ∈ segs, s.Closed := by
  constructor
  · intro h
    exact ⟨flatMap_words_segments h, closed_of_segmentsFrom h (by simp)⟩
  · rintro ⟨rfl, h⟩
    exact segments_flatMap_words h

theorem exists_map_eq_ok_iff {ε α β : Type} {x : Except ε α} {f : α → β} :
    (∃ b, x.map f = .ok b) ↔ ∃ a, x = .ok a := by
  cases x with
  | error e => simp [Except.map]
  | ok a => simp [Except.map]

/-- Segments are found if every open bracket is closed. -/
theorem exists_segmentsFrom_iff {depth : Nat} {inner ws : List String} :
    (∃ segs, segmentsFrom depth inner ws = .ok segs) ↔ openAfter? depth ws = some 0 := by
  induction ws generalizing depth inner with
  | nil =>
    cases depth with
    | zero => simp [segmentsFrom, openAfter?]
    | succ depth => simp [segmentsFrom, openAfter?]
  | cons w ws ih =>
    by_cases hOpen : w = "("
    · subst hOpen
      rw [openAfter?_opening]
      cases depth with
      | zero => exact ih
      | succ depth => exact ih
    by_cases hClose : w = ")"
    · subst hClose
      cases depth with
      | zero => simp [segmentsFrom, openAfter?_closing_zero]
      | succ depth =>
        rw [openAfter?_closing_succ]
        cases depth with
        | zero => exact exists_map_eq_ok_iff.trans ih
        | succ depth => exact ih
    · rw [openAfter?_word hOpen hClose]
      cases depth with
      | zero =>
        simp only [segmentsFrom, if_neg hOpen, if_neg hClose, if_true]
        exact exists_map_eq_ok_iff.trans ih
      | succ depth =>
        simp only [segmentsFrom, if_neg hOpen, if_neg hClose, Nat.add_one_ne_zero, if_false]
        exact ih

theorem exists_segments_iff {ws : List String} :
    (∃ segs, segments ws = .ok segs) ↔ Balanced ws := exists_segmentsFrom_iff

/-! ## Cutting segments -/

theorem operands_of_not_mem {cut : String} {segs : List Segment} (h : .word cut ∉ segs) :
    operands cut segs = [segs.flatMap Segment.words] := by
  induction segs with
  | nil => rfl
  | cons s segs ih =>
    rw [List.mem_cons, not_or] at h
    rw [operands, if_neg (Ne.symm h.1), ih h.2]
    rfl

theorem operands_append_cons {cut : String} {segs : List Segment} (h : .word cut ∉ segs)
    (rest : List Segment) :
    operands cut (segs ++ .word cut :: rest) =
      segs.flatMap Segment.words :: operands cut rest := by
  induction segs with
  | nil => simp [operands]
  | cons s segs ih =>
    rw [List.mem_cons, not_or] at h
    rw [List.cons_append, operands, if_neg (Ne.symm h.1), ih h.2]
    rfl

/-- The first operand stands at the beginning, and every other one behind a cut. -/
theorem operands_split (cut : String) (segs : List Segment) :
    ∃ r after qs, operands cut segs = r.flatMap Segment.words :: qs ∧ segs = r ++ after ∧
      .word cut ∉ r ∧ ∀ p ∈ qs, ∃ before r' after', segs = before ++ .word cut :: (r' ++ after') ∧
        r'.flatMap Segment.words = p ∧ .word cut ∉ r' := by
  induction segs with
  | nil => exact ⟨[], [], [], rfl, rfl, List.not_mem_nil, nofun⟩
  | cons s segs ih =>
    obtain ⟨r, after, qs, hOperands, hSegs, hCut, hRest⟩ := ih
    -- What is known of the other operands holds with one more segment in front.
    have hBehind : ∀ p ∈ qs, ∃ before r' after',
        s :: segs = before ++ .word cut :: (r' ++ after') ∧
          r'.flatMap Segment.words = p ∧ .word cut ∉ r' := by
      intro p hp
      obtain ⟨before, r', after', hSplit, hPart⟩ := hRest p hp
      exact ⟨s :: before, r', after', by rw [hSplit, List.cons_append], hPart⟩
    by_cases hs : s = .word cut
    · refine ⟨[], s :: segs, r.flatMap Segment.words :: qs, ?_, rfl, List.not_mem_nil, ?_⟩
      · rw [operands, if_pos hs, hOperands]
        rfl
      · exact List.forall_mem_cons.mpr ⟨⟨[], r, after, by rw [hs, hSegs]; rfl, rfl, hCut⟩, hBehind⟩
    · refine ⟨s :: r, after, qs, ?_, by rw [hSegs, List.cons_append], ?_, hBehind⟩
      · rw [operands, if_neg hs, hOperands]
        rfl
      · exact fun hMem => (List.mem_cons.mp hMem).elim (fun he => hs he.symm) hCut

end RuleVerdict.Logic
