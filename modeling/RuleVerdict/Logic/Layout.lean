import RuleVerdict.Text.Blank
import RuleVerdict.Text.Pieces
import RuleVerdict.Text.Lowercase
import RuleVerdict.Text.Digits

/-!
# The layout of logic texts

A logic text is free in letter case and spacing. Its normal layout is in lower case, has one space
between two words and none at its ends, and keeps digits, letters and brackets apart: a space goes
in wherever the kind of character changes, and every bracket is a word of its own. A character of
no kind counts as one of the kind before it.

* `wordsOf_glue`, `words_join`: words with single spaces between them are found again.
* `words_normalize`: the words of the normal layout are the words of the spaced text.
-/

namespace RuleVerdict.Logic

open Text

/-- The kinds of characters that the layout keeps apart. -/
inductive CharKind where
  | digit
  | letter
  | bracket
  deriving DecidableEq

/-- The kind of a character, if it has one of its own. -/
def CharKind.of? (c : Char) : Option CharKind :=
  if isDigit c then some .digit
  else if 'a' ≤ c ∧ c ≤ 'z' then some .letter
  else if c = '(' ∨ c = ')' then some .bracket
  else none

/-- A blank becomes a space; everything else stays. -/
def plainBlank (c : Char) : Char := if isBlank c then ' ' else c

/-- Puts a space where the kind changes, and before each character that counts as a bracket;
`last` is the kind of the text before. -/
def spaced (last : Option CharKind) : List Char → List Char
  | [] => []
  | c :: cs =>
    let c := plainBlank c
    let kind := (CharKind.of? c).or last
    if kind ≠ last ∨ kind = some .bracket then ' ' :: c :: spaced kind cs else c :: spaced kind cs

/-- The words of a text: its non-empty pieces between spaces. -/
def wordsOf (cs : List Char) : List (List Char) := (pieces ' ' cs).filter fun w => !w.isEmpty

/-- The normal layout of a text, character by character. -/
def normalizeChars (cs : List Char) : List Char := glue ' ' (wordsOf (spaced none (lowercase cs)))

/-- The normal layout of a logic text. -/
def normalize (s : String) : String := String.ofList (normalizeChars s.toList)

/-- The words of a logic text in normal layout, or of any text. -/
def words (s : String) : List String := (wordsOf s.toList).map String.ofList

theorem not_mem_of_mem_wordsOf {cs w : List Char} (h : w ∈ wordsOf cs) : ' ' ∉ w :=
  not_mem_of_mem_pieces (List.mem_filter.1 h).1

theorem ne_nil_of_mem_wordsOf {cs w : List Char} (h : w ∈ wordsOf cs) : w ≠ [] := by
  have := (List.mem_filter.1 h).2
  simpa using this

/-- Words glued with single spaces are found again. -/
theorem wordsOf_glue {ws : List (List Char)} (h : ∀ w ∈ ws, ' ' ∉ w ∧ w ≠ []) :
    wordsOf (glue ' ' ws) = ws := by
  cases ws with
  | nil => rfl
  | cons w ws =>
    rw [wordsOf, pieces_glue (by simp) fun p hp => (h p hp).1, List.filter_eq_self]
    intro p hp
    simpa using (h p hp).2

/-- Strings joined with single spaces are found again. -/
theorem words_join {ws : List String} (h : ∀ w ∈ ws, ' ' ∉ w.toList ∧ w.toList ≠ []) :
    words (join ' ' ws) = ws := by
  have hGlue : wordsOf (glue ' ' (ws.map String.toList)) = ws.map String.toList :=
    wordsOf_glue (List.forall_mem_map.mpr h)
  rw [words, join, String.toList_ofList, hGlue, List.map_map]
  simp [Function.comp_def]

theorem wordsOf_normalizeChars (cs : List Char) :
    wordsOf (normalizeChars cs) = wordsOf (spaced none (lowercase cs)) :=
  wordsOf_glue fun _ hw => ⟨not_mem_of_mem_wordsOf hw, ne_nil_of_mem_wordsOf hw⟩

/-- The words of the normal layout. -/
theorem words_normalize (s : String) :
    words (normalize s) = (wordsOf (spaced none (lowercase s.toList))).map String.ofList := by
  simp [words, normalize, wordsOf_normalizeChars]

end RuleVerdict.Logic
