import RuleVerdict.Logic.Layout
import RuleVerdict.Logic.Token
import Mathlib.Tactic.SplitIfs

/-!
# The spelling of tokens

A word is a token if it is a bracket or one of `and`, `or` and `not`, or else a row of digits whose
number fits an id. A text in normal layout is tokenized word by word, up to the first one that is
no token.

* `ofWord?_eq_none_iff`: which words are no tokens.
* `tokenize_eq_error_iff`: which word of a text in normal layout is reported.
-/

namespace RuleVerdict

variable {α : Type}

/-- The element is the first one in the list that does not have the property. -/
def FirstNot (p : α → Prop) (l : List α) (x : α) : Prop :=
  ∃ before after, l = before ++ x :: after ∧ (∀ y ∈ before, p y) ∧ ¬p x

theorem not_firstNot_nil (p : α → Prop) (x : α) : ¬FirstNot p [] x := by
  rintro ⟨before, after, h, -⟩
  simp at h

theorem firstNot_cons {p : α → Prop} {y : α} {l : List α} {x : α} :
    FirstNot p (y :: l) x ↔ x = y ∧ ¬p y ∨ p y ∧ FirstNot p l x := by
  constructor
  · rintro ⟨before, after, h, hbefore, hx⟩
    cases before with
    | nil =>
      obtain ⟨rfl, rfl⟩ := List.cons.inj h
      exact .inl ⟨rfl, hx⟩
    | cons b before =>
      obtain ⟨rfl, rfl⟩ := List.cons.inj h
      obtain ⟨hy, hbefore⟩ := List.forall_mem_cons.mp hbefore
      exact .inr ⟨hy, before, after, rfl, hbefore, hx⟩
  · rintro (⟨rfl, hx⟩ | ⟨hy, before, after, rfl, hbefore, hx⟩)
    · exact ⟨[], l, rfl, nofun, hx⟩
    · exact ⟨y :: before, after, rfl, List.forall_mem_cons.mpr ⟨hy, hbefore⟩, hx⟩

/-- There is at most one such element. -/
theorem FirstNot.unique {p : α → Prop} {l : List α} {x y : α} (hx : FirstNot p l x)
    (hy : FirstNot p l y) : x = y := by
  induction l with
  | nil => exact absurd hx (not_firstNot_nil p x)
  | cons z l ih =>
    rcases firstNot_cons.mp hx with ⟨rfl, hz⟩ | ⟨hz, hx⟩
    · rcases firstNot_cons.mp hy with ⟨rfl, -⟩ | ⟨hz', -⟩
      · rfl
      · exact absurd hz' hz
    · rcases firstNot_cons.mp hy with ⟨rfl, hz'⟩ | ⟨-, hy⟩
      · exact absurd hz hz'
      · exact ih hx hy

/-- A list without a first element that lacks the property has it throughout. -/
theorem forall_mem_of_forall_not_firstNot {p : α → Prop} {l : List α}
    (h : ∀ x, ¬FirstNot p l x) : ∀ x ∈ l, p x := by
  induction l with
  | nil => nofun
  | cons y l ih =>
    have hy : p y := Classical.byContradiction fun hy => h y (firstNot_cons.mpr (.inl ⟨rfl, hy⟩))
    exact List.forall_mem_cons.mpr
      ⟨hy, ih fun x hx => h x (firstNot_cons.mpr (.inr ⟨hy, hx⟩))⟩

namespace Logic

/-- A bracket, one of the words `and`, `or` and `not`, or a row of digits whose number fits an
id. -/
def IsTokenWord (w : String) : Prop :=
  w ∈ ["and", "or", "not", "(", ")"] ∨
    (w.toList ≠ [] ∧ (∀ c ∈ w.toList, Text.isDigit c) ∧ Text.ofDigits w.toList ≤ 4294967295)

theorem ofDigits?_eq_none_iff {cs : List Char} :
    AtomId.ofDigits? cs = none ↔
      ¬(cs ≠ [] ∧ (∀ c ∈ cs, Text.isDigit c) ∧ Text.ofDigits cs ≤ 4294967295) := by
  rw [← and_assoc]
  unfold AtomId.ofDigits? Text.number? AtomId.ofNat? AtomId.greatest
  split
  · next h =>
    have hd : cs ≠ [] ∧ ∀ c ∈ cs, Text.isDigit c := by simpa using h
    rw [and_iff_right hd, Option.bind_some]
    simp
  · next h =>
    have hd : ¬(cs ≠ [] ∧ ∀ c ∈ cs, Text.isDigit c) := by simpa using h
    exact iff_of_true rfl fun hcs => hd hcs.1

/-- The words that are no tokens. -/
theorem ofWord?_eq_none_iff {w : String} : Token.ofWord? w = none ↔ ¬IsTokenWord w := by
  unfold Token.ofWord?
  split_ifs with h1 h2 h3 h4 h5
  case neg =>
    rw [Option.map_eq_none_iff, ofDigits?_eq_none_iff]
    simp only [IsTokenWord, List.mem_cons, h1, h2, h3, h4, h5, List.not_mem_nil, or_self,
      false_or]
  all_goals simp [IsTokenWord, *]

/-- Words are taken as tokens up to the first one that is none. -/
theorem tokensOf_eq_error_iff {ws : List String} {w : String} :
    tokensOf ws = .error w ↔ FirstNot IsTokenWord ws w := by
  induction ws with
  | nil => exact ⟨nofun, fun h => absurd h (not_firstNot_nil _ _)⟩
  | cons v ws ih =>
    rw [firstNot_cons, tokensOf]
    cases hv : Token.ofWord? v with
    | none =>
      have hno := ofWord?_eq_none_iff.mp hv
      simp [hno, eq_comm]
    | some t =>
      have hyes : IsTokenWord v := Classical.byContradiction fun hno => by
        cases hv.symm.trans (ofWord?_eq_none_iff.mpr hno)
      cases hws : tokensOf ws <;> simp_all [Except.map]

/-- In normal layout the words are the pieces between the spaces. -/
theorem split_normalize {s : String} (h : normalize s ≠ "") :
    Text.split ' ' (normalize s) = words (normalize s) := by
  have hne : wordsOf (spaced none (Text.lowercase s.toList)) ≠ [] := by
    intro hnil
    apply h
    rw [normalize, normalizeChars, hnil]
    rfl
  rw [words_normalize, Text.split, normalize, String.toList_ofList, normalizeChars,
    Text.pieces_glue hne fun _ hw => not_mem_of_mem_wordsOf hw]

/-- A text in normal layout is tokenized word by word. -/
theorem tokenize_normalize (s : String) :
    tokenize (normalize s) = tokensOf (words (normalize s)) := by
  by_cases h : normalize s = ""
  · rw [h]
    rfl
  · rw [tokenize, if_neg h, split_normalize h]

/-- The word of a text in normal layout that is reported to be no token. -/
theorem tokenize_eq_error_iff {s w : String} :
    tokenize (normalize s) = .error w ↔ FirstNot IsTokenWord (words (normalize s)) w := by
  rw [tokenize_normalize, tokensOf_eq_error_iff]

end Logic

end RuleVerdict
