import RuleVerdict.Proofs.Group.Checks
import RuleVerdict.Proofs.Group.Entries
import RuleVerdict.Proofs.Logic.Divergence
import RuleVerdict.Proofs.Logic.FreeLayout
import RuleVerdict.Proofs.Logic.NodeValues

/-!
# Conjunctions of all atoms

A group without a logic needs all its atoms. An author may also say so: in a logic that joins the
atoms of the group with `and`, in any order and in any brackets, and perhaps several times. The two
groups judge every record alike, although the faults are found in three different ways: among the
outcomes, among the marked leaves of a tree, and along its diverging paths.

* `Formula.Conjunctive.divergingAt_eq`, `Formula.Conjunctive.markedFaults_eq`: in a formula without
  `or` and `not` both searches find the leaves that are false.
* `Compiled.faults_of_conjunction`: the faults of a group with such a logic.
* `evaluate_eq_of_conjunction`: it makes no difference whether the logic is written.
-/

namespace RuleVerdict

open Logic

/-! ## Formulas without `or` and `not` -/

namespace Logic

namespace Formula

/-- Atoms are joined with `and` only. -/
inductive Conjunctive : Formula → Prop
  | atom (id : AtomId) : Conjunctive (.atom id)
  | conjunction {text : String} {fs : List Formula} (h : ∀ f ∈ fs, f.Conjunctive) :
      Conjunctive (.conjunction text fs)

namespace Conjunctive

variable {truth : AtomId → Bool} {f : Formula} {m : Mark}

theorem mark_of_mem_leavesAt (h : f.Conjunctive) : ∀ l ∈ f.leavesAt m, l.mark = m := by
  induction h with
  | atom id =>
    intro l hl
    rw [List.mem_singleton.mp hl]
  | conjunction h ih =>
    intro l hl
    rw [leavesAt, leavesEach_eq_flatMap] at hl
    obtain ⟨f, hf, hl⟩ := List.mem_flatMap.mp hl
    exact ih f hf l hl

/-- The leaves that are false are reached, and no others. -/
theorem divergingAt_eq (h : f.Conjunctive) (m : Mark) :
    f.divergingAt truth true = ((f.leavesAt m).map Leaf.id).filter fun id => !truth id := by
  induction h with
  | atom id =>
    rw [divergingAt, leavesAt]
    cases hId : truth id <;> simp [hId]
  | conjunction h ih =>
    rw [divergingAt_conjunction_true, divergingEach_eq_flatMap, leavesAt, leavesEach_eq_flatMap,
      List.map_flatMap, List.filter_flatMap]
    exact List.flatMap_congr ih

/-- Every leaf is blamed and should be true. -/
theorem markedFaults_eq (h : f.Conjunctive) :
    f.markedFaults truth = (f.leaves.map Leaf.id).filter fun id => !truth id := by
  have hBlamed : ∀ l ∈ f.leaves,
      (l.mark.blamed && (truth l.id != l.mark.should)) = !truth l.id := by
    intro l hl
    rw [h.mark_of_mem_leavesAt l hl, Mark.root]
    simp
  rw [markedFaults, List.filter_congr hBlamed, List.filter_map]
  rfl

end Conjunctive

end Formula

mutual

theorem OrChain.conjunctive_formula : (x : OrChain Numeral) →
    .or ∉ (x.map Numeral.id).tokens → .not ∉ (x.map Numeral.id).tokens → x.formula.Conjunctive
  | .last c, hOr, hNot => c.conjunctive_formula hOr hNot
  | .or c x, hOr, _ => absurd (by simp) hOr

theorem AndChain.conjunctive_formula : (c : AndChain Numeral) →
    .or ∉ (c.map Numeral.id).tokens → .not ∉ (c.map Numeral.id).tokens → c.formula.Conjunctive
  | .last u, hOr, hNot => u.conjunctive_formula hOr hNot
  | .and u c, hOr, hNot => .conjunction (AndChain.conjunctive_formulas (.and u c) hOr hNot)

theorem AndChain.conjunctive_formulas : (c : AndChain Numeral) →
    .or ∉ (c.map Numeral.id).tokens → .not ∉ (c.map Numeral.id).tokens →
      ∀ f ∈ c.formulas, f.Conjunctive
  | .last u, hOr, hNot => List.forall_mem_singleton.mpr (u.conjunctive_formula hOr hNot)
  | .and u c, hOr, hNot => by
    simp only [AndChain.map, AndChain.tokens, List.mem_append, List.mem_cons, not_or] at hOr hNot
    exact List.forall_mem_cons.mpr ⟨u.conjunctive_formula hOr.1 hNot.1,
      c.conjunctive_formulas hOr.2.2 hNot.2.2⟩

theorem Operand.conjunctive_formula : (u : Operand Numeral) →
    .or ∉ (u.map Numeral.id).tokens → .not ∉ (u.map Numeral.id).tokens → u.formula.Conjunctive
  | .atom n, _, _ => .atom n.id
  | .not u, _, hNot => absurd (by simp) hNot
  | .brackets x, hOr, hNot => by
    simp only [Operand.map, Operand.tokens, List.mem_cons, List.mem_append, not_or] at hOr hNot
    exact x.conjunctive_formula hOr.2.1 hNot.2.1

end

end Logic

variable {d : GroupDefinition} {c : TreeCache} {g : Group} {e : OrChain AtomId}

/-- Both modes find the atoms of the logic that do not fit. -/
theorem Compiled.faults_of_conjunction (hg : Compiled d g)
    (he : tokenize (normalize d.logic) = .ok e.tokens) (hOr : .or ∉ e.tokens)
    (hNot : .not ∉ e.tokens) (outcomes : ById Bool) :
    g.faults outcomes =
      (e.tokens.filterMap Token.id?).filter fun id => !Group.outcomeOf outcomes id := by
  obtain ⟨x, t, rfl, ht, hRoot⟩ := hg.exists_spelling he
  have hConj : t.root.Conjunctive := hRoot ▸ x.conjunctive_formula hOr hNot
  have hLeaves : t.root.leaves.map Leaf.id = (x.map Numeral.id).tokens.filterMap Token.id? := by
    rw [hRoot]
    exact x.map_id_leavesAt .root
  rw [Group.faults, ht, ← hLeaves]
  cases g.blame with
  | firstDisjunct => exact hConj.markedFaults_eq
  | exhaustive =>
    have hFaults := t.divergingFaults_eq (Group.outcomeOf outcomes)
    exact hFaults.trans (hConj.divergingAt_eq .root)

/-- If the logic refers to all atoms, a group without a tree has the same verdicts. -/
theorem Compiled.evaluate_of_conjunction (hg : Compiled d g)
    (he : tokenize (normalize d.logic) = .ok e.tokens) (hOr : .or ∉ e.tokens)
    (hNot : .not ∉ e.tokens) (hIds : ∀ id, .id id ∈ e.tokens ↔ ∃ a ∈ g.atoms, a.id = id)
    {g' : Group} (hAtoms : g.atoms = g'.atoms) (hTree : g'.tree = none) (r : Record) :
    g.evaluate r = g'.evaluate r := by
  apply Group.verdictOf_eq_of_atoms_eq hAtoms
  intro a ha
  rw [hg.faults_of_conjunction he hOr hNot, Group.mem_faults_outcomes_of_no_tree hTree, ← hAtoms,
    List.mem_filter, Token.mem_filterMap_id?, hIds, Group.outcomeOf_outcomes hg.nodup ha]
  constructor
  · rintro ⟨-, hFails⟩
    exact ⟨a, ha, rfl, by simpa using hFails⟩
  · rintro ⟨b, hb, hid, hFails⟩
    obtain rfl := List.inj_on_of_nodup_map hg.nodup hb ha hid
    exact ⟨⟨b, hb, rfl⟩, by simpa using hFails⟩

/-! ## The same rules with another logic -/

/-- Without a logic the ids are assigned and the operators are resolved, and that is all. -/
theorem GroupDefinition.exists_atoms_of_compile (hBlank : normalize d.logic = "")
    (h : d.compile = .ok g) :
    ∃ ids atoms, assignIds d.rules = .ok ids ∧ resolveAll d.rules ids = .ok atoms ∧
      g = d.group atoms none := by
  obtain ⟨ids, atoms, tree, hIds, hAtoms, hTree, rfl⟩ := compile_eq_ok_iff.mp h
  cases tree with
  | none => exact ⟨ids, atoms, hIds, hAtoms, rfl⟩
  | some t => exact absurd hBlank hTree.1

/-- **An implicit conjunction is any explicit one.** Some rules have a group without a logic. A
logic that joins the atoms of the group with `and`, each at least once, in brackets at most 256
levels deep, is accepted for the same rules in both modes, and every record has the same verdict
with it. -/
theorem evaluate_eq_of_conjunction {c' : TreeCache} (hc : c.Reachable) (hc' : c'.Reachable)
    (hBlank : ∀ ch ∈ d.logic.toList, Text.isBlank ch = true) (h : (d.compileWith c).1 = .ok g)
    (hOr : .or ∉ e.tokens) (hNot : .not ∉ e.tokens)
    (hIds : ∀ id, .id id ∈ e.tokens ↔ ∃ a ∈ g.atoms, a.id = id) (hDepth : e.depth ≤ 256)
    {text : String} (he : tokenize (normalize text) = .ok e.tokens) (mode : BlameMode) :
    ∃ g', ({ d with logic := text, blame := mode }.compileWith c').1 = .ok g' ∧
      ∀ r, g'.evaluate r = g.evaluate r := by
  rw [hc.sound.fst_compileWith] at h
  obtain ⟨ids, atoms, hAssign, hResolve, rfl⟩ :=
    GroupDefinition.exists_atoms_of_compile (normalize_of_blanks hBlank) h
  have hAtomIds : atoms.map Atom.id = ids :=
    map_id_of_resolveAll (assignFrom_spec hAssign).1 hResolve
  have hRefs : ∀ id, .id id ∈ e.tokens → id ∈ ids := by
    intro id hid
    rw [← hAtomIds]
    exact List.mem_map.mpr ((hIds id).mp hid)
  let d' : GroupDefinition := { d with logic := text, blame := mode }
  obtain ⟨t, ht⟩ := GroupDefinition.exists_compile_eq (d := d') hAssign hResolve he hRefs hDepth
  have hCompile : (d'.compileWith c').1 = .ok (d'.group atoms (some t)) := by
    rw [hc'.sound.fst_compileWith, ht]
  have hg := compiled_of_compileWith hc' hCompile
  exact ⟨_, hCompile, hg.evaluate_of_conjunction he hOr hNot hIds rfl rfl⟩

/-- Two rules without a logic: there is nothing but blanks. -/
def localMember : GroupDefinition where
  rules := [⟨"=", "country", some (.text "at"), none, "lives abroad"⟩,
    ⟨"!=", "role", some (.text "guest"), none, "is a guest"⟩]
  logic := "\u3000\n"
  name := none
  message := none
  value := none
  blame := .exhaustive

/-- The group of this definition. -/
def localMemberGroup : Group :=
  { name := none, message := "", value := none, blame := .exhaustive,
    atoms := [⟨1, "country", .compare .eq, some (.text "at"), "lives abroad", _, rfl⟩,
      ⟨2, "role", .compare .ne, some (.text "guest"), "is a guest", _, rfl⟩],
    logic := "", tree := none }

/-- An expression that joins its atoms. -/
def localMemberExpression : OrChain AtomId :=
  .last (.and (.brackets (.last (.and (.atom 2) (.last (.atom 1))))) (.last (.atom 1)))

/-- It makes no difference to write `2 and 1`, and to repeat one of them. -/
theorem evaluate_eq_of_conjunction_localMember :
    (localMember.compileWith .empty).1 = .ok localMemberGroup ∧
      ∃ g, ({ localMember with logic := "(2 AND 01)and 1", blame := .firstDisjunct }.compileWith
        .empty).1 = .ok g ∧ ∀ r, g.evaluate r = localMemberGroup.evaluate r := by
  have hCompile : (localMember.compileWith .empty).1 = .ok localMemberGroup := by
    rw [GroupDefinition.compileWith_fst]
    rfl
  have hTokens : tokenize (normalize "(2 AND 01)and 1") = .ok localMemberExpression.tokens := by
    decide +kernel
  have hIds : ∀ id, .id id ∈ localMemberExpression.tokens ↔
      ∃ a ∈ localMemberGroup.atoms, a.id = id := by
    intro id
    simp [localMemberExpression, localMemberGroup, eq_comm, or_comm]
  have hBlank : ∀ ch ∈ localMember.logic.toList, Text.isBlank ch = true :=
    List.all_eq_true.mp (by decide +kernel)
  exact ⟨hCompile, evaluate_eq_of_conjunction .empty .empty hBlank hCompile (by decide) (by decide)
    hIds (by decide) hTokens .firstDisjunct⟩

end RuleVerdict
