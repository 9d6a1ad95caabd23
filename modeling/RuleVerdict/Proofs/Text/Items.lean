import RuleVerdict.Text.Blank
import RuleVerdict.Text.Pieces

/-!
# Pieces and blanks, said of the text alone

What it is to be a piece of a text between separators, and to be what is left of a text without the
blanks around it, apart from how either is computed. Both are what the functions give.

* `mem_pieces_iff`: the pieces of a text.
* `trim_eq_iff`: the text without the blanks around it.
-/

namespace RuleVerdict.Text

/-! ## Pieces -/

variable {sep : Char}

/-- A stretch of a text without separators in it that lies between two separators, or between a
separator and an end of the text, or is the whole text. -/
inductive IsPiece (sep : Char) : List Char → List Char → Prop
  | whole {p : List Char} (h : sep ∉ p) : IsPiece sep p p
  | first {p : List Char} (h : sep ∉ p) (behind : List Char) : IsPiece sep (p ++ sep :: behind) p
  | later (before : List Char) {behind p : List Char} (h : IsPiece sep behind p) :
      IsPiece sep (before ++ sep :: behind) p

/-- The pieces of a text. -/
theorem mem_pieces_iff {cs p : List Char} : p ∈ pieces sep cs ↔ IsPiece sep cs p := by
  constructor
  · -- A text with a separator is a first piece and a shorter text.
    intro h
    induction hLength : cs.length using Nat.strongRecOn generalizing cs with
    | ind n ih =>
      by_cases hMem : sep ∈ cs
      · obtain ⟨first, behind, rfl, hFirst⟩ := List.eq_append_cons_of_mem hMem
        rw [pieces_append_cons hFirst] at h
        rcases List.mem_cons.mp h with rfl | hLater
        · exact .first hFirst behind
        · rw [List.length_append, List.length_cons] at hLength
          exact .later first (ih behind.length (by omega) hLater rfl)
      · rw [pieces_of_not_mem hMem] at h
        obtain rfl := List.mem_singleton.mp h
        exact .whole hMem
  · intro h
    induction h with
    | whole h =>
      rw [pieces_of_not_mem h]
      exact List.mem_singleton_self _
    | first h behind =>
      rw [pieces_append_cons h]
      exact List.mem_cons_self
    | later before _ ih =>
      rw [pieces_append_sep]
      exact List.mem_append_right _ ih

/-! ## Blanks at the ends -/

/-- Nothing but blanks. -/
def IsBlank (cs : List Char) : Prop := ∀ c ∈ cs, isBlank c = true

/-- A text that neither begins nor ends with a blank. -/
def IsBare (cs : List Char) : Prop :=
  (∀ c, cs.head? = some c → isBlank c = false) ∧ ∀ c, cs.getLast? = some c → isBlank c = false

/-- What is left of a text without the blanks at its ends. -/
def Trims (cs bare : List Char) : Prop :=
  ∃ before behind, cs = before ++ (bare ++ behind) ∧ IsBlank before ∧ IsBlank behind ∧ IsBare bare

variable {cs ds : List Char}

theorem dropWhile_isBlank_of_head (h : ∀ c, cs.head? = some c → isBlank c = false) :
    cs.dropWhile isBlank = cs := by
  cases cs with
  | nil => rfl
  | cons c cs => rw [List.dropWhile_cons_of_neg (by simp [h c rfl])]

theorem trim_eq_self (h : IsBare cs) : trim cs = cs := by
  have hReverse : ∀ c, cs.reverse.head? = some c → isBlank c = false := by
    simpa only [List.head?_reverse] using h.2
  rw [trim, trimEnd, dropWhile_isBlank_of_head h.1, dropWhile_isBlank_of_head hReverse,
    List.reverse_reverse]

theorem trim_append_left (h : IsBlank ds) (cs : List Char) : trim (ds ++ cs) = trim cs := by
  rw [trim, List.dropWhile_append_of_pos h]
  rfl

theorem trimEnd_append_right (h : IsBlank ds) (cs : List Char) :
    trimEnd (cs ++ ds) = trimEnd cs := by
  have hReverse : ∀ c ∈ ds.reverse, isBlank c = true := fun c hc => h c (List.mem_reverse.mp hc)
  rw [trimEnd, List.reverse_append, List.dropWhile_append_of_pos hReverse]
  rfl

theorem IsBare.trim_append_right (h : IsBare cs) (hBehind : IsBlank ds) :
    trim (cs ++ ds) = cs := by
  cases cs with
  | nil =>
    have hNone := trim_append_left hBehind []
    rwa [List.append_nil] at hNone
  | cons c cs =>
    have hFirst : (c :: cs ++ ds).dropWhile isBlank = c :: cs ++ ds := by
      apply dropWhile_isBlank_of_head
      intro d hd
      exact h.1 d hd
    have hSelf := trim_eq_self h
    rw [trim, dropWhile_isBlank_of_head h.1] at hSelf
    rw [trim, hFirst, trimEnd_append_right hBehind, hSelf]

theorem trimEnd_append_rest (cs : List Char) :
    trimEnd cs ++ (cs.reverse.takeWhile isBlank).reverse = cs := by
  rw [trimEnd, ← List.reverse_append, List.takeWhile_append_dropWhile, List.reverse_reverse]

theorem isBlank_of_mem_takeWhile {c : Char} (h : c ∈ cs.takeWhile isBlank) : isBlank c = true :=
  List.all_eq_true.mp List.all_takeWhile c h

theorem isBlank_of_head_dropWhile {c : Char} (h : (cs.dropWhile isBlank).head? = some c) :
    isBlank c = false := by
  have hHead := List.head?_dropWhile_not isBlank cs
  rwa [h] at hHead

theorem trims_trim (cs : List Char) : Trims cs (trim cs) := by
  have hRest := trimEnd_append_rest (cs.dropWhile isBlank)
  refine ⟨cs.takeWhile isBlank, ((cs.dropWhile isBlank).reverse.takeWhile isBlank).reverse, ?_,
    fun c hc => isBlank_of_mem_takeWhile hc, ?_, ?_, ?_⟩
  · rw [trim, hRest, List.takeWhile_append_dropWhile]
  · intro c hc
    exact isBlank_of_mem_takeWhile (List.mem_reverse.mp hc)
  · -- What is cut off at the end does not reach the beginning.
    intro c hc
    have hHead : (cs.dropWhile isBlank).head? = some c := by
      rw [← hRest, List.head?_append, ← trim, hc]
      rfl
    exact isBlank_of_head_dropWhile hHead
  · intro c hc
    rw [trim, trimEnd, List.getLast?_reverse] at hc
    exact isBlank_of_head_dropWhile hc

/-- The text without the blanks around it. -/
theorem trim_eq_iff : trim cs = ds ↔ Trims cs ds := by
  constructor
  · rintro rfl
    exact trims_trim cs
  · rintro ⟨before, behind, rfl, hBefore, hBehind, hBare⟩
    rw [trim_append_left hBefore, hBare.trim_append_right hBehind]

end RuleVerdict.Text
