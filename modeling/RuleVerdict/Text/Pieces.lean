/-!
# Texts in pieces

Cutting a text at every occurrence of one character, and gluing pieces back together. A path is
cut at its dots, a list literal at its commas, a logic text at its spaces.

* `glue_pieces`: gluing the pieces of a text gives the text back.
* `not_mem_of_mem_pieces`: no piece holds the character the text was cut at.
* `pieces_append_sep`: a text is cut where the character stands.
* `pieces_glue`: pieces without the character are found again after gluing.
-/

namespace RuleVerdict.Text

/-- The pieces of a text between the occurrences of `sep`; there is always one piece. -/
def pieces (sep : Char) : List Char → List (List Char)
  | [] => [[]]
  | c :: cs => if c = sep then [] :: pieces sep cs else (pieces sep cs).modifyHead (c :: ·)

/-- The pieces in order with `sep` between each two. -/
def glue (sep : Char) : List (List Char) → List Char
  | [] => []
  | [p] => p
  | p :: q :: ps => p ++ sep :: glue sep (q :: ps)

theorem pieces_ne_nil (sep : Char) (cs : List Char) : pieces sep cs ≠ [] := by
  induction cs with
  | nil => simp [pieces]
  | cons c cs ih =>
    unfold pieces
    split
    · simp
    · cases h : pieces sep cs with
      | nil => exact absurd h ih
      | cons p ps => simp

theorem glue_pieces (sep : Char) (cs : List Char) : glue sep (pieces sep cs) = cs := by
  induction cs with
  | nil => rfl
  | cons c cs ih =>
    have hne := pieces_ne_nil sep cs
    unfold pieces
    cases h : pieces sep cs with
    | nil => exact absurd h hne
    | cons p ps =>
      rw [h] at ih
      split
      · next hc => rw [glue, ih, hc]; rfl
      · cases ps with
        | nil => simpa [glue] using ih
        | cons q qs => simpa [glue] using ih

theorem not_mem_of_mem_pieces {sep : Char} {cs p : List Char} (h : p ∈ pieces sep cs) :
    sep ∉ p := by
  induction cs generalizing p with
  | nil => simp_all [pieces]
  | cons c cs ih =>
    unfold pieces at h
    split at h
    · rcases List.mem_cons.1 h with rfl | h
      · simp
      · exact ih h
    · next hc =>
      cases hp : pieces sep cs with
      | nil => exact absurd hp (pieces_ne_nil sep cs)
      | cons q qs =>
        rw [hp] at h ih
        rcases List.mem_cons.1 h with rfl | h
        · have := ih List.mem_cons_self
          simp_all [eq_comm]
        · exact ih (List.mem_cons_of_mem _ h)

theorem pieces_of_not_mem {sep : Char} {cs : List Char} (h : sep ∉ cs) :
    pieces sep cs = [cs] := by
  induction cs with
  | nil => rfl
  | cons c cs ih =>
    simp only [List.mem_cons, not_or] at h
    have hc : c ≠ sep := fun e => h.1 e.symm
    simp [pieces, hc, ih h.2]

/-- A text is cut where a separator stands. -/
theorem pieces_append_sep (sep : Char) (xs ys : List Char) :
    pieces sep (xs ++ sep :: ys) = pieces sep xs ++ pieces sep ys := by
  induction xs with
  | nil => simp [pieces]
  | cons c xs ih =>
    rw [List.cons_append, pieces, pieces, ih]
    split
    · rfl
    · cases hPieces : pieces sep xs with
      | nil => exact absurd hPieces (pieces_ne_nil sep xs)
      | cons p ps => rfl

theorem pieces_append_cons {sep : Char} {p : List Char} (h : sep ∉ p) (cs : List Char) :
    pieces sep (p ++ sep :: cs) = p :: pieces sep cs := by
  rw [pieces_append_sep, pieces_of_not_mem h, List.singleton_append]

theorem pieces_glue {sep : Char} {ps : List (List Char)} (hne : ps ≠ [])
    (h : ∀ p ∈ ps, sep ∉ p) : pieces sep (glue sep ps) = ps := by
  induction ps with
  | nil => exact absurd rfl hne
  | cons p ps ih =>
    cases ps with
    | nil => simpa [glue] using pieces_of_not_mem (h p (by simp))
    | cons q qs =>
      rw [glue, pieces_append_cons (h p (by simp)), ih (by simp)]
      intro r hr
      exact h r (List.mem_cons_of_mem _ hr)

/-- The pieces of a string. -/
def split (sep : Char) (s : String) : List String :=
  (pieces sep s.toList).map String.ofList

/-- Strings with `sep` between each two. -/
def join (sep : Char) (ps : List String) : String :=
  String.ofList (glue sep (ps.map String.toList))

theorem join_split (sep : Char) (s : String) : join sep (split sep s) = s := by
  simp [join, split, Function.comp_def, glue_pieces]

end RuleVerdict.Text
