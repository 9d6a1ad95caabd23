import RuleVerdict.Proofs.Logic.Reading

/-!
# The depth of an expression

An expression is as deep as its deepest atom lies, where every negation and every pair of brackets
around an atom counts one and a chain of `and` or `or` counts nothing. The count over a word list
knows nothing of expressions: it remembers what each open bracket has counted. On the words of an
expression it finds the depth.

* `foldl_step_words`: what the words of an expression do to the count.
* `nesting_words`: the count over the words of an expression is the depth of the expression.
* `Tree.build_of_words`, `Tree.build_eq_ok_of_words`: an expression has a tree unless it is too
  deep.
-/

namespace RuleVerdict.Logic

mutual

/-- The depth of an expression: that of its deepest operand. -/
@[simp]
def OrChain.depth {α : Type} : OrChain α → Nat
  | .last c => c.depth
  | .or c d => max c.depth d.depth

/-- The depth of a chain of `and`. -/
@[simp]
def AndChain.depth {α : Type} : AndChain α → Nat
  | .last u => u.depth
  | .and u c => max u.depth c.depth

/-- The depth of an operand. -/
@[simp]
def Operand.depth {α : Type} : Operand α → Nat
  | .atom _ => 0
  | .not u => 1 + u.depth
  | .brackets d => 1 + d.depth

end

mutual

theorem OrChain.depth_map {α β : Type} (f : α → β) : (d : OrChain α) → (d.map f).depth = d.depth
  | .last c => c.depth_map f
  | .or c d => by simp [c.depth_map f, d.depth_map f]

theorem AndChain.depth_map {α β : Type} (f : α → β) : (c : AndChain α) → (c.map f).depth = c.depth
  | .last u => u.depth_map f
  | .and u c => by simp [u.depth_map f, c.depth_map f]

theorem Operand.depth_map {α β : Type} (f : α → β) : (u : Operand α) → (u.map f).depth = u.depth
  | .atom _ => rfl
  | .not u => by simp [u.depth_map f]
  | .brackets d => by simp [d.depth_map f]

end

/-! ## Counting -/

namespace Nesting

/-- The depth that has been reached is taken into account. -/
def Noted (s : Nesting) : Prop := s.depth + s.negations ≤ s.deepest

/-- The count behind an operand of the given depth. -/
def after (s : Nesting) (k : Nat) : Nesting :=
  { s with negations := 0, deepest := max s.deepest (s.depth + s.negations + k) }

theorem noted_start : start.Noted := Nat.le_refl 0

theorem noted_step (s : Nesting) (w : String) : (s.step w).Noted := by
  unfold step note Noted
  exact Nat.le_max_right ..

theorem noted_after {s : Nesting} (h : s.Noted) (k : Nat) : (s.after k).Noted := by
  simp only [Noted, after] at h ⊢
  omega

theorem after_after {s : Nesting} (h : s.negations = 0) (j k : Nat) :
    (s.after j).after k = s.after (max j k) := by
  simp only [after, h, mk.injEq, true_and]
  omega

/-- A word that is neither `not` nor a bracket ends the row of `not`s before it. -/
theorem step_word {s : Nesting} (h : s.Noted) {w : String} (hn : w ≠ "not") (ho : w ≠ "(")
    (hc : w ≠ ")") : s.step w = s.after 0 := by
  simp only [Noted] at h
  simp only [step, if_neg hn, if_neg ho, if_neg hc, note, after, mk.injEq, true_and]
  omega

theorem step_not (s : Nesting) (k : Nat) : (s.step "not").after k = s.after (1 + k) := by
  simp only [step, note, after, mk.injEq, true_and, if_pos]
  omega

/-- A pair of brackets counts one more than the `not`s before it, and only what it encloses. -/
theorem step_brackets (s : Nesting) (k : Nat) :
    ((s.step "(").after k).step ")" = s.after (1 + k) := by
  simp only [step, note, after, mk.injEq, if_pos, show ¬("(" = "not") by decide +kernel,
    show ¬(")" = "not") by decide +kernel, show ¬(")" = "(") by decide +kernel, if_false,
    List.tail_cons, List.head?_cons, Option.getD_some, true_and]
  omega

end Nesting

open Nesting

mutual

/-- A chain begins behind no `not`: such a `not` would belong to its first operand alone. -/
theorem OrChain.foldl_step_words : (d : OrChain Numeral) → ∀ s : Nesting, s.Noted →
    s.negations = 0 → d.words.foldl Nesting.step s = s.after d.depth
  | .last c, s, hs, hz => c.foldl_step_words s hs hz
  | .or c d, s, hs, hz => by
    have hc := noted_after hs c.depth
    have hor : (s.after c.depth).step "or" = (s.after c.depth).after 0 :=
      step_word hc (by decide +kernel) (by decide +kernel) (by decide +kernel)
    rw [OrChain.words, List.foldl_append, List.foldl_cons, c.foldl_step_words s hs hz, hor,
      d.foldl_step_words _ (noted_after hc 0) rfl, after_after rfl, after_after hz, OrChain.depth,
      Nat.zero_max]

theorem AndChain.foldl_step_words : (c : AndChain Numeral) → ∀ s : Nesting, s.Noted →
    s.negations = 0 → c.words.foldl Nesting.step s = s.after c.depth
  | .last u, s, hs, _ => u.foldl_step_words s hs
  | .and u c, s, hs, hz => by
    have hu := noted_after hs u.depth
    have hand : (s.after u.depth).step "and" = (s.after u.depth).after 0 :=
      step_word hu (by decide +kernel) (by decide +kernel) (by decide +kernel)
    rw [AndChain.words, List.foldl_append, List.foldl_cons, u.foldl_step_words s hs, hand,
      c.foldl_step_words _ (noted_after hu 0) rfl, after_after rfl, after_after hz, AndChain.depth,
      Nat.zero_max]

theorem Operand.foldl_step_words : (u : Operand Numeral) → ∀ s : Nesting, s.Noted →
    u.words.foldl Nesting.step s = s.after u.depth
  | .atom n, _, hs =>
    step_word hs (n.word_ne (by decide +kernel)) (n.word_ne (by decide +kernel))
      (n.word_ne (by decide +kernel))
  | .not u, s, _ => by
    rw [Operand.words, List.foldl_cons, u.foldl_step_words _ (noted_step s "not"), step_not,
      Operand.depth]
  | .brackets d, s, _ => by
    have hzero : (s.step "(").negations = 0 := by
      simp only [step, note, show ¬("(" = "not") by decide +kernel, if_false, if_pos]
    rw [Operand.words, List.foldl_cons, List.foldl_append, List.foldl_cons, List.foldl_nil,
      d.foldl_step_words _ (noted_step s "(") hzero, step_brackets, Operand.depth]

end

/-- The count over the words of an expression is its depth. -/
theorem nesting_words (d : OrChain Numeral) : nesting d.words = d.depth := by
  rw [nesting, d.foldl_step_words start noted_start rfl]
  simp [after, start]

/-- An expression has its formula for a tree, unless it is too deep. -/
theorem Tree.build_of_words {logic : String} {d : OrChain Numeral} (h : words logic = d.words) :
    Tree.build logic = if 256 < d.depth then .error .tooDeep
      else .ok { logic := logic, root := d.formula } := by
  rw [Tree.build, h, nesting_words, d.build_words]
  rfl

theorem Tree.build_eq_ok_of_words {logic : String} {d : OrChain Numeral}
    (h : words logic = d.words) (hDepth : d.depth ≤ 256) :
    Tree.build logic = .ok { logic := logic, root := d.formula } := by
  rw [Tree.build_of_words h, if_neg (Nat.not_lt.mpr hDepth)]

/-- The same for tokens: what is read from them does not depend on how the ids are written. -/
theorem exists_build_of_tokenize {logic : String} {x : OrChain AtomId}
    (h : tokenize logic = .ok x.tokens) :
    ∃ t, Tree.build logic = if 256 < x.depth then .error .tooDeep else .ok t := by
  obtain ⟨d, hd, rfl⟩ := x.exists_words_eq _ (map_read?_words_of_tokenize h)
  rw [d.depth_map]
  exact ⟨_, Tree.build_of_words hd.symm⟩

end RuleVerdict.Logic
