import Mathlib.Data.Bool.Basic
import RuleVerdict.Proofs.Group.Checks
import RuleVerdict.Proofs.Group.Integrity
import RuleVerdict.Proofs.Logic.NegatedText

/-!
# A group and its negation

The logic of a group can be negated by its author. In exhaustive mode a record then fits exactly one
of the two groups. In the other mode a record may fit neither, since only the literals behind first
operands count, but it never fits both: the negation has the same literals with their signs turned
around, and there is at least one.

* `OrChain.literals_not`, `OrChain.literals_ne_nil`: the literals of an expression and of its
  negation.
* `Compiled.firstDisjunct_fits_iff`: when a record fits in the mode of first disjuncts.
* `fits_at_most_one`: a record never fits a group and its negation.
-/

namespace RuleVerdict

open Logic

/-! ## Signs turned around -/

namespace Logic

variable {α : Type}

/-- The literal that is violated where the other one is not. -/
def opposite (l : α × Bool) : α × Bool := (l.1, !l.2)

mutual

theorem OrChain.literals_not (sign : Bool) : (d : OrChain α) →
    d.literals (!sign) = (d.literals sign).map opposite
  | .last c => c.literals_not sign
  | .or c _ => c.literals_not sign

theorem AndChain.literals_not (sign : Bool) : (c : AndChain α) →
    c.literals (!sign) = (c.literals sign).map opposite
  | .last u => u.literals_not sign
  | .and u c => by
    rw [AndChain.literals, AndChain.literals, List.map_append, u.literals_not sign,
      c.literals_not sign]

theorem Operand.literals_not (sign : Bool) : (u : Operand α) →
    u.literals (!sign) = (u.literals sign).map opposite
  | .atom _ => rfl
  | .not u => u.literals_not (!sign)
  | .brackets d => d.literals_not sign

end

mutual

/-- Some literal decides the expression. -/
theorem OrChain.literals_ne_nil (sign : Bool) : (d : OrChain α) → d.literals sign ≠ []
  | .last c => c.literals_ne_nil sign
  | .or c _ => c.literals_ne_nil sign

theorem AndChain.literals_ne_nil (sign : Bool) : (c : AndChain α) → c.literals sign ≠ []
  | .last u => u.literals_ne_nil sign
  | .and u _ => List.append_ne_nil_of_left_ne_nil (u.literals_ne_nil sign) _

theorem Operand.literals_ne_nil (sign : Bool) : (u : Operand α) → u.literals sign ≠ []
  | .atom _ => List.cons_ne_nil _ _
  | .not u => u.literals_ne_nil (!sign)
  | .brackets d => d.literals_ne_nil sign

end

/-- The expression in brackets behind a `not`. -/
def OrChain.negated (e : OrChain α) : OrChain α := .last (.last (.not (.brackets e)))

theorem OrChain.tokens_negated (e : OrChain AtomId) :
    e.negated.tokens = .not :: .opening :: (e.tokens ++ [.closing]) := rfl

theorem OrChain.value_negated (e : OrChain α) (truth : α → Bool) :
    e.negated.value truth = !e.value truth := rfl

/-- The literals of the negation are those of the expression with the signs turned around. -/
theorem OrChain.literals_negated (e : OrChain α) :
    e.negated.literals true = (e.literals true).map opposite := e.literals_not true

end Logic

/-! ## When a record fits -/

namespace Compiled

variable {d : GroupDefinition} {g : Group} {e : OrChain AtomId}

/-- In the mode of first disjuncts a record fits exactly if it violates no literal. -/
theorem firstDisjunct_fits_iff (hg : Compiled d g) (hMode : d.blame = .firstDisjunct)
    (he : tokenize (normalize d.logic) = .ok e.tokens) (r : Record) :
    g.fits r = true ↔
      ∀ l ∈ e.literals true, Group.outcomeOf (g.outcomes r) l.1 = l.2 := by
  rw [Group.fits, Group.evaluate, Group.fits_verdictOf_iff]
  constructor
  · rintro hFits ⟨id, s⟩ hl
    obtain ⟨a, ha, rfl⟩ := hg.exists_atom_of_mem_literals he hl
    by_contra hNe
    exact hFits a ha ((hg.mem_firstDisjunct_faults_iff hMode he).mpr ⟨s, hl, hNe⟩)
  · intro hKept a _ hFault
    obtain ⟨s, hl, hNe⟩ := (hg.mem_firstDisjunct_faults_iff hMode he).mp hFault
    exact hNe (hKept _ hl)

/-- Some leaf of the tree is blamed, so that a record can fail to fit. -/
theorem exists_blamed_leaf (hg : Compiled d g) {t : Tree} (ht : g.tree = some t) :
    ∃ l ∈ t.root.leaves, l.mark.blamed = true := by
  rcases hg.eq_none_or_exists_expression with ⟨-, hNone⟩ | ⟨-, e, he⟩
  · rw [hNone] at ht
    cases ht
  · obtain ⟨u, hu, -, -, hCharges, -⟩ := hg.exists_tree he
    obtain rfl : t = u := Option.some.inj (ht.symm.trans hu)
    have hNe := e.literals_ne_nil true
    rw [← hCharges, Formula.charges, ne_eq, List.map_eq_nil_iff] at hNe
    obtain ⟨l, hl⟩ := List.exists_mem_of_ne_nil _ hNe
    obtain ⟨hLeaf, hBlamed⟩ := List.mem_filter.mp hl
    exact ⟨l, hLeaf, hBlamed⟩

end Compiled

/-! ## The negation of a group -/

/-- The same rules with the logic in brackets behind a `not`. -/
def GroupDefinition.negated (d : GroupDefinition) : GroupDefinition :=
  { d with logic := negatedText d.logic }

variable {d : GroupDefinition} {c : TreeCache} {g g' : Group}

theorem GroupDefinition.atoms_of_negated (h : d.compile = .ok g) (h' : d.negated.compile = .ok g') :
    g'.atoms = g.atoms := by
  obtain ⟨ids, atoms, tree, hAssign, hResolve, -, rfl⟩ := compile_eq_ok_iff.mp h
  obtain ⟨ids', atoms', tree', hAssign', hResolve', -, rfl⟩ := compile_eq_ok_iff.mp h'
  obtain rfl : ids = ids' := Except.ok.inj (hAssign.symm.trans hAssign')
  exact Except.ok.inj (hResolve'.symm.trans hResolve)

/-- If the negation of a logic is accepted, the logic is an expression. -/
theorem Compiled.exists_expression_of_negated (hg : Compiled d g) (hg' : Compiled d.negated g') :
    ∃ e : OrChain AtomId, tokenize (normalize d.logic) = .ok e.tokens ∧
      tokenize (normalize d.negated.logic) = .ok e.negated.tokens := by
  rcases hg.eq_none_or_exists_expression with ⟨hBlank, -⟩ | ⟨-, e, he⟩
  · -- Nothing stands between the brackets of the negation.
    have hNone : tokenize (normalize d.logic) = .ok [] := by
      rw [← hg.logic, hBlank]
      rfl
    have hTokens : tokenize (normalize d.negated.logic) = .ok [.not, .opening, .closing] :=
      tokenize_normalize_negatedText hNone
    rcases hg'.eq_none_or_exists_expression with ⟨hBlank', -⟩ | ⟨-, e, he⟩
    · rw [← hg'.logic, hBlank'] at hTokens
      cases hTokens
    · have hShape := checkShape_eq_ok_iff.mpr ⟨e, Except.ok.inj (he.symm.trans hTokens)⟩
      cases hShape
  · refine ⟨e, he, ?_⟩
    rw [OrChain.tokens_negated]
    exact tokenize_normalize_negatedText he

/-- **No record fits a group and its negation.** In the tree of every group some leaf is blamed.
If the negation of its logic has a group too, no record fits both of them when only first disjuncts
count, and every record fits exactly one of them in exhaustive mode. -/
theorem fits_at_most_one (hc : c.Reachable) (h : (d.compileWith c).1 = .ok g) :
    (∀ t, g.tree = some t → ∃ l ∈ t.root.leaves, l.mark.blamed = true) ∧
      ∀ c' g', c'.Reachable → (d.negated.compileWith c').1 = .ok g' →
        (d.blame = .firstDisjunct → ∀ r, ¬(g.fits r = true ∧ g'.fits r = true)) ∧
          (d.blame = .exhaustive → ∀ r, g'.fits r = !g.fits r) := by
  have hg := compiled_of_compileWith hc h
  refine ⟨fun t ht => hg.exists_blamed_leaf ht, ?_⟩
  intro c' g' hc' h'
  have hg' := compiled_of_compileWith hc' h'
  obtain ⟨e, he, he'⟩ := hg.exists_expression_of_negated hg'
  rw [hc.sound.fst_compileWith] at h
  rw [hc'.sound.fst_compileWith] at h'
  have hOutcomes : ∀ r, g'.outcomes r = g.outcomes r := by
    intro r
    rw [Group.outcomes, Group.outcomes, GroupDefinition.atoms_of_negated h h']
  constructor
  · rintro hMode r ⟨hFits, hFits'⟩
    rw [hg.firstDisjunct_fits_iff hMode he] at hFits
    rw [hg'.firstDisjunct_fits_iff hMode he', hOutcomes, OrChain.literals_negated] at hFits'
    obtain ⟨l, hl⟩ := List.exists_mem_of_ne_nil _ (e.literals_ne_nil true)
    have hSign := hFits l hl
    have hOpposite := hFits' (opposite l) (List.mem_map_of_mem hl)
    rw [opposite, hSign] at hOpposite
    exact Bool.self_ne_not l.2 hOpposite
  · intro hMode r
    have hValue := hg.exhaustive_fits_iff hMode he r
    have hValue' := hg'.exhaustive_fits_iff hMode he' r
    rw [hOutcomes, OrChain.value_negated, Bool.not_eq_true', ← Bool.not_eq_true,
      ← hValue] at hValue'
    rw [Bool.eq_iff_iff, hValue', Bool.not_eq_true', Bool.not_eq_true]

/-- No record fits `neither` and its negation, and in exhaustive mode every record fits one. -/
theorem fits_at_most_one_neither :
    (∃ g, ((neither .firstDisjunct).negated.compileWith .empty).1 = .ok g ∧
        ∀ r, ¬((neitherGroup .firstDisjunct).fits r = true ∧ g.fits r = true)) ∧
      ∃ g, ((neither .exhaustive).negated.compileWith .empty).1 = .ok g ∧
        ∀ r, g.fits r = !(neitherGroup .exhaustive).fits r := by
  have hNegated : ∀ mode, ∃ g, ((neither mode).negated.compileWith .empty).1 = .ok g := by
    intro mode
    have hTokens : tokenize (normalize (neither mode).negated.logic) =
        .ok neitherExpression.negated.tokens :=
      tokenize_normalize_negatedText (tokenize_neither mode)
    have hRefs : ∀ id, .id id ∈ neitherExpression.negated.tokens → id ∈ ([1, 2] : List AtomId) := by
      simp [OrChain.negated, neitherExpression]
    have hIds : assignIds (neither mode).negated.rules = .ok [1, 2] := rfl
    have hAtoms : resolveAll (neither mode).negated.rules [1, 2] =
        .ok (neitherGroup mode).atoms := rfl
    obtain ⟨t, ht⟩ := GroupDefinition.exists_compile_eq hIds hAtoms hTokens hRefs (by decide)
    rw [GroupDefinition.compileWith_fst]
    exact ⟨_, ht⟩
  obtain ⟨g, hg⟩ := hNegated .firstDisjunct
  obtain ⟨g', hg'⟩ := hNegated .exhaustive
  obtain ⟨-, hFirst⟩ := fits_at_most_one .empty (compile_neither .firstDisjunct)
  obtain ⟨-, hAll⟩ := fits_at_most_one .empty (compile_neither .exhaustive)
  exact ⟨⟨g, hg, (hFirst _ g .empty hg).1 rfl⟩, ⟨g', hg', (hAll _ g' .empty hg').2 rfl⟩⟩

end RuleVerdict
