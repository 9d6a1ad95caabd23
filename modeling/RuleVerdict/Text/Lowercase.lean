import RuleVerdict.Unicode.Letters
import RuleVerdict.Unicode.Lower

/-!
# Lower case

The lower case of a text, by the rules that no language changes. Two characters are special: the
dotted capital `İ` becomes an `i` with a dot above it, and a capital sigma becomes `ς` at the end
of a word and `σ` elsewhere.

* `lowercase_nil`, `lowerFrom_cons`: the text is taken one character at a time.
* `lowerFrom_of_plain`: apart from the two special characters, each character goes its own way.
-/

namespace RuleVerdict.Text

open Unicode

/-- The lower case of a character that has one of a single character, else the character. -/
def lowerChar (c : Char) : Char :=
  match lowerRuns.findSome? fun r => r.apply? c.toNat with
  | some n => Char.ofNat n
  | none => c

/-- Whether the first character that is not ignored for letter case has letter case. -/
def facesCased (cs : List Char) : Bool :=
  match cs.dropWhile caseIgnorable.contains with
  | c :: _ => cased.contains c
  | [] => false

/-- The lower case of one character between the reversed text before it and the text after it. -/
def lowerAt (before : List Char) (c : Char) (after : List Char) : List Char :=
  if c = 'Σ' then
    if facesCased before && !facesCased after then ['ς'] else ['σ']
  else if c = 'İ' then ['i', '\u0307']
  else [lowerChar c]

/-- The lower case of the text after a reversed text. -/
def lowerFrom (before : List Char) : List Char → List Char
  | [] => []
  | c :: cs => lowerAt before c cs ++ lowerFrom (c :: before) cs

/-- The lower case of a text. -/
def lowercase (cs : List Char) : List Char := lowerFrom [] cs

@[simp] theorem lowercase_nil : lowercase [] = [] := rfl

theorem lowerFrom_cons (before : List Char) (c : Char) (cs : List Char) :
    lowerFrom before (c :: cs) = lowerAt before c cs ++ lowerFrom (c :: before) cs := rfl

/-- Apart from the two special characters every character goes its own way. -/
theorem lowerFrom_of_plain {cs : List Char} (h : ∀ c ∈ cs, c ≠ 'Σ' ∧ c ≠ 'İ')
    (before : List Char) : lowerFrom before cs = cs.map lowerChar := by
  induction cs generalizing before with
  | nil => rfl
  | cons c cs ih =>
    have hc := h c (by simp)
    rw [lowerFrom_cons, ih (fun d hd => h d (List.mem_cons_of_mem _ hd))]
    simp [lowerAt, hc.1, hc.2]

/-- Some form of each character is in the lower case of the text. -/
theorem exists_lowerAt_subset {c : Char} {cs : List Char} (h : c ∈ cs) (before : List Char) :
    ∃ front back, lowerAt front c back ⊆ lowerFrom before cs := by
  induction cs generalizing before with
  | nil => cases h
  | cons d cs ih =>
    rw [lowerFrom_cons]
    rcases List.mem_cons.mp h with rfl | h
    · exact ⟨before, cs, List.subset_append_left _ _⟩
    · obtain ⟨front, back, hSubset⟩ := ih h (d :: before)
      exact ⟨front, back, List.subset_append_of_subset_right _ hSubset⟩

end RuleVerdict.Text
