import RuleVerdict.Proofs.Logic.Faults
import RuleVerdict.Proofs.Logic.Reading

/-!
# What the formula of an expression says

The formula into which an expression is read keeps what the expression says: its truth value, the
literals that decide it when only first operands count, and the atoms that it refers to.

* `OrChain.value_formula`, `OrChain.charges_formula`: the formula has the value of the expression,
  and its charges are the literals of the expression.
* `OrChain.map_id_leavesAt`: the leaves are the atoms of the tokens, in order.
* `exists_formula_of_read`: words that are read as the tokens of an expression have such a formula.
* `proper_of_build`: what is read is proper.
-/

namespace RuleVerdict.Logic

open Formula

/-! ## Chains -/

theorem OrChain.formulas_ne_nil (d : OrChain Numeral) : d.formulas ≠ [] := by
  cases d <;> simp

theorem AndChain.formulas_ne_nil (c : AndChain Numeral) : c.formulas ≠ [] := by
  cases c <;> simp

mutual

theorem OrChain.proper_formula : (d : OrChain Numeral) → d.formula.Proper
  | .last c => c.proper_formula
  | .or c d => by
    refine .disjunction ?_ (List.forall_mem_cons.mpr ⟨c.proper_formula, d.proper_formulas⟩)
    have := List.length_pos_iff.mpr d.formulas_ne_nil
    rw [List.length_cons]
    omega

theorem OrChain.proper_formulas : (d : OrChain Numeral) → ∀ f ∈ d.formulas, f.Proper
  | .last c => List.forall_mem_singleton.mpr c.proper_formula
  | .or c d => List.forall_mem_cons.mpr ⟨c.proper_formula, d.proper_formulas⟩

theorem AndChain.proper_formula : (c : AndChain Numeral) → c.formula.Proper
  | .last u => u.proper_formula
  | .and u c => by
    refine .conjunction ?_ (List.forall_mem_cons.mpr ⟨u.proper_formula, c.proper_formulas⟩)
    have := List.length_pos_iff.mpr c.formulas_ne_nil
    rw [List.length_cons]
    omega

theorem AndChain.proper_formulas : (c : AndChain Numeral) → ∀ f ∈ c.formulas, f.Proper
  | .last u => List.forall_mem_singleton.mpr u.proper_formula
  | .and u c => List.forall_mem_cons.mpr ⟨u.proper_formula, c.proper_formulas⟩

theorem Operand.proper_formula : (u : Operand Numeral) → u.formula.Proper
  | .atom n => .atom n.id
  | .not u => u.proper_formula.negation
  | .brackets d => d.proper_formula

end

/-- What is read is proper. -/
theorem proper_of_build {ws : List String} {f : Formula} (h : build ws = .ok f) : f.Proper := by
  obtain ⟨d, rfl⟩ := exists_words_of_build h
  rw [d.build_words, Except.ok.injEq] at h
  rw [← h]
  exact d.proper_formula

theorem Tree.proper_root {logic : String} {t : Tree} (h : Tree.build logic = .ok t) :
    t.root.Proper := by
  obtain ⟨-, f, hf, rfl⟩ := Tree.build_eq_ok_iff.mp h
  exact proper_of_build hf

/-! ## Values -/

mutual

theorem OrChain.value_formula (truth : AtomId → Bool) : (d : OrChain Numeral) →
    d.formula.value truth = (d.map Numeral.id).value truth
  | .last c => c.value_formula truth
  | .or c d => by simp [Formula.value, valueAny, c.value_formula truth, d.value_formulas truth]

theorem OrChain.value_formulas (truth : AtomId → Bool) : (d : OrChain Numeral) →
    valueAny truth d.formulas = (d.map Numeral.id).value truth
  | .last c => by simp [valueAny, c.value_formula truth]
  | .or c d => by simp [valueAny, c.value_formula truth, d.value_formulas truth]

theorem AndChain.value_formula (truth : AtomId → Bool) : (c : AndChain Numeral) →
    c.formula.value truth = (c.map Numeral.id).value truth
  | .last u => u.value_formula truth
  | .and u c => by simp [Formula.value, valueAll, u.value_formula truth, c.value_formulas truth]

theorem AndChain.value_formulas (truth : AtomId → Bool) : (c : AndChain Numeral) →
    valueAll truth c.formulas = (c.map Numeral.id).value truth
  | .last u => by simp [valueAll, u.value_formula truth]
  | .and u c => by simp [valueAll, u.value_formula truth, c.value_formulas truth]

theorem Operand.value_formula (truth : AtomId → Bool) : (u : Operand Numeral) →
    u.formula.value truth = (u.map Numeral.id).value truth
  | .atom n => rfl
  | .not u => by simp [Formula.value, u.value_formula truth]
  | .brackets d => d.value_formula truth

end

/-! ## Charges -/

mutual

theorem OrChain.charges_formula (sign : Bool) : (d : OrChain Numeral) →
    d.formula.charges sign = (d.map Numeral.id).literals sign
  | .last c => c.charges_formula sign
  | .or c d => by
    rw [OrChain.formula, charges_disjunction d.proper_formulas, c.charges_formula sign]
    rfl

theorem AndChain.charges_formula (sign : Bool) : (c : AndChain Numeral) →
    c.formula.charges sign = (c.map Numeral.id).literals sign
  | .last u => u.charges_formula sign
  | .and u c => by
    rw [AndChain.formula, charges_conjunction, List.flatMap_cons, u.charges_formula sign,
      c.charges_formulas sign]
    rfl

theorem AndChain.charges_formulas (sign : Bool) : (c : AndChain Numeral) →
    c.formulas.flatMap (charges sign) = (c.map Numeral.id).literals sign
  | .last u => by simp [u.charges_formula sign]
  | .and u c => by simp [u.charges_formula sign, c.charges_formulas sign]

theorem Operand.charges_formula (sign : Bool) : (u : Operand Numeral) →
    u.formula.charges sign = (u.map Numeral.id).literals sign
  | .atom n => charges_atom n.id
  | .not u => by
    rw [Operand.formula, charges_negation, u.charges_formula (!sign)]
    rfl
  | .brackets d => d.charges_formula sign

end

/-! ## Leaves -/

mutual

/-- The atoms of the leaves are those that the tokens refer to, in order. -/
theorem OrChain.map_id_leavesAt : (d : OrChain Numeral) → ∀ m : Mark,
    (d.formula.leavesAt m).map Leaf.id = (d.map Numeral.id).tokens.filterMap Token.id?
  | .last c, m => c.map_id_leavesAt m
  | .or c d, m => by
    simp [leavesAt, leavesFirst, c.map_id_leavesAt m, d.map_id_leavesEach m.excuse, Token.id?,
      List.filterMap_cons]

theorem OrChain.map_id_leavesEach : (d : OrChain Numeral) → ∀ m : Mark,
    (leavesEach m d.formulas).map Leaf.id = (d.map Numeral.id).tokens.filterMap Token.id?
  | .last c, m => by simp [leavesEach, c.map_id_leavesAt m]
  | .or c d, m => by
    simp [leavesEach, c.map_id_leavesAt m, d.map_id_leavesEach m, Token.id?, List.filterMap_cons]

theorem AndChain.map_id_leavesAt : (c : AndChain Numeral) → ∀ m : Mark,
    (c.formula.leavesAt m).map Leaf.id = (c.map Numeral.id).tokens.filterMap Token.id?
  | .last u, m => u.map_id_leavesAt m
  | .and u c, m => by
    simp [leavesAt, leavesEach, u.map_id_leavesAt m, c.map_id_leavesEach m, Token.id?,
      List.filterMap_cons]

theorem AndChain.map_id_leavesEach : (c : AndChain Numeral) → ∀ m : Mark,
    (leavesEach m c.formulas).map Leaf.id = (c.map Numeral.id).tokens.filterMap Token.id?
  | .last u, m => by simp [leavesEach, u.map_id_leavesAt m]
  | .and u c, m => by
    simp [leavesEach, u.map_id_leavesAt m, c.map_id_leavesEach m, Token.id?, List.filterMap_cons]

theorem Operand.map_id_leavesAt : (u : Operand Numeral) → ∀ m : Mark,
    (u.formula.leavesAt m).map Leaf.id = (u.map Numeral.id).tokens.filterMap Token.id?
  | .atom _, _ => rfl
  | .not u, m => by simp [leavesAt, u.map_id_leavesAt m.negate, Token.id?, List.filterMap_cons]
  | .brackets d, m => by simp [d.map_id_leavesAt m, Token.id?, List.filterMap_cons]

end

/-- Words that are read as the tokens of an expression have a formula that says the same. -/
theorem exists_formula_of_read {ws : List String} {e : OrChain AtomId}
    (h : ws.map Token.read? = e.tokens.map some) :
    ∃ f : Formula, build ws = .ok f ∧ f.Proper ∧ (∀ truth, f.value truth = e.value truth) ∧
      (∀ sign, f.charges sign = e.literals sign) ∧
      ∀ m, (f.leavesAt m).map Leaf.id = e.tokens.filterMap Token.id? := by
  obtain ⟨d, rfl, rfl⟩ := e.exists_words_eq ws h
  exact ⟨d.formula, d.build_words, d.proper_formula, fun truth => d.value_formula truth,
    fun sign => d.charges_formula sign, d.map_id_leavesAt⟩

end RuleVerdict.Logic
