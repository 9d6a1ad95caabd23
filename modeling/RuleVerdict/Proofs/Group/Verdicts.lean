import Mathlib.Data.List.Nodup
import RuleVerdict.Proofs.Group.BlameModes
import RuleVerdict.Proofs.Group.Compiled
import RuleVerdict.Proofs.Group.Entries
import RuleVerdict.Proofs.Logic.NodeValues

/-!
# What a verdict says about an expression

A group whose logic is an expression judges a record by the outcomes of its atoms. In exhaustive
mode the record fits exactly if the expression is true. When only first disjuncts count, the
reasons are the literals of the expression that the record violates.

* `Compiled.exhaustive_fits_iff`: when a record fits in exhaustive mode.
* `exhaustive_fits_iff_value`: the verdict of the exhaustive mode is the value of the expression.
* `firstDisjunct_reasons_iff_violated`: the reasons of the other mode are the violated literals.
-/

namespace RuleVerdict

open Logic

variable {d : GroupDefinition} {c : TreeCache} {g : Group} {e : OrChain AtomId}

/-! ## A group on which the modes differ -/

/-- Neither of two rules may fit. -/
def neither (mode : BlameMode) : GroupDefinition :=
  { rules := [⟨"=", "a", some (.text "x"), some 1, "a is x"⟩,
      ⟨"empty", "b", none, some 2, "b is empty"⟩],
    logic := "NOT (1 OR 2)", name := none, message := none, value := none, blame := mode }

/-- The group of this definition. -/
def neitherGroup (mode : BlameMode) : Group :=
  { name := none, message := "", value := none, blame := mode,
    atoms := [⟨1, "a", .compare .eq, some (.text "x"), "a is x", _, rfl⟩,
      ⟨2, "b", .absent, none, "b is empty", _, rfl⟩],
    logic := "not ( 1 or 2 )",
    tree := some ⟨"not ( 1 or 2 )",
      .negation "not ( 1 or 2 )" (.disjunction "1 or 2" [.atom 1, .atom 2]), _, rfl⟩ }

/-- The expression that its logic is. -/
def neitherExpression : OrChain AtomId :=
  .last (.last (.not (.brackets (.or (.last (.atom 1)) (.last (.last (.atom 2)))))))

theorem compile_neither (mode : BlameMode) :
    ((neither mode).compileWith .empty).1 = .ok (neitherGroup mode) := by
  have hNormal : normalize (neither mode).logic = "not ( 1 or 2 )" := by
    change normalize "NOT (1 OR 2)" = "not ( 1 or 2 )"
    decide +kernel
  have hLogic : checkLogic [1, 2] "not ( 1 or 2 )" = .ok () := by decide +kernel
  rw [GroupDefinition.compileWith_fst, GroupDefinition.compile_eq_ok_iff, hNormal]
  refine ⟨[1, 2], (neitherGroup mode).atoms, some _, rfl, rfl,
    ⟨by decide, hLogic, build_or_below_not⟩, ?_⟩
  rw [GroupDefinition.group, hNormal]
  rfl

theorem tokenize_neither (mode : BlameMode) :
    tokenize (normalize (neither mode).logic) = .ok neitherExpression.tokens := by
  change tokenize (normalize "NOT (1 OR 2)") = .ok neitherExpression.tokens
  decide +kernel

/-! ## All diverging paths -/

/-- The faults of the exhaustive mode are atoms of the expression, and there are none exactly if
it is true. -/
theorem Compiled.exhaustive_faults (hg : Compiled d g) (hmode : d.blame = .exhaustive)
    (he : tokenize (normalize d.logic) = .ok e.tokens) (outcomes : ById Bool) :
    (∀ id ∈ g.faults outcomes, .id id ∈ e.tokens) ∧
      (g.faults outcomes = [] ↔ e.value (Group.outcomeOf outcomes) = true) := by
  obtain ⟨t, ht, hproper, hvalue, -, hleaves⟩ := hg.exists_tree he
  have hfaults : g.faults outcomes = t.root.divergingFaults (Group.outcomeOf outcomes) := by
    rw [Group.faults, ht, hg.blame, hmode]
    exact t.divergingFaults_eq _
  rw [hfaults]
  constructor
  · intro id hid
    obtain ⟨l, hl, rfl⟩ := Formula.exists_leaf_of_mem_divergingAt hproper hid .root
    rw [← Token.mem_filterMap_id?, ← hleaves]
    exact List.mem_map.mpr ⟨l, hl, rfl⟩
  · rw [Formula.divergingFaults_eq_nil_iff hproper, hvalue]

/-- In exhaustive mode a record fits exactly if the expression is true. -/
theorem Compiled.exhaustive_fits_iff (hg : Compiled d g) (hmode : d.blame = .exhaustive)
    (he : tokenize (normalize d.logic) = .ok e.tokens) (r : Record) :
    g.fits r = true ↔ e.value (Group.outcomeOf (g.outcomes r)) = true := by
  obtain ⟨htokens, hnil⟩ := hg.exhaustive_faults hmode he (g.outcomes r)
  rw [Group.fits, Group.evaluate, Group.fits_verdictOf_iff, ← hnil, List.eq_nil_iff_forall_not_mem]
  constructor
  · intro hfits id hid
    obtain ⟨a, ha, rfl⟩ := hg.exists_atom he (htokens id hid)
    exact hfits a ha hid
  · exact fun hnone a _ => hnone a.id

/-- **The exhaustive mode is correct.** A group is compiled in exhaustive mode, and its logic is an
expression. Then every atom of the expression is one of the group, and a record fits exactly if
the expression is true when each atom is worth its outcome. -/
theorem exhaustive_fits_iff_value (hc : c.Reachable) (hmode : d.blame = .exhaustive)
    (h : (d.compileWith c).1 = .ok g) (he : tokenize (normalize d.logic) = .ok e.tokens)
    (r : Record) :
    (g.atoms.map Atom.id).Nodup ∧ (∀ id, .id id ∈ e.tokens → ∃ a ∈ g.atoms, a.id = id) ∧
      ∀ truth : AtomId → Bool, (∀ a ∈ g.atoms, truth a.id = a.judge r) →
        ((g.evaluate r).fits = true ↔ e.value truth = true) := by
  have hg := compiled_of_compileWith hc h
  have hatom := fun id (hid : .id id ∈ e.tokens) => hg.exists_atom he hid
  refine ⟨hg.nodup, hatom, fun truth htruth => ?_⟩
  have hvalue : e.value (Group.outcomeOf (g.outcomes r)) = e.value truth := by
    refine e.value_congr fun id hid => ?_
    obtain ⟨a, ha, rfl⟩ := hatom id hid
    rw [Group.outcomeOf_outcomes hg.nodup ha, htruth a ha]
  rw [← hvalue]
  exact hg.exhaustive_fits_iff hmode he r

/-- A record without `b` does not fit, since atom 2 makes the negation false. -/
theorem exhaustive_fits_iff_value_neither :
    ((neither .exhaustive).compileWith .empty).1 = .ok (neitherGroup .exhaustive) ∧
      ((neitherGroup .exhaustive).evaluate .empty).fits = false := by
  obtain ⟨-, -, h⟩ := exhaustive_fits_iff_value .empty rfl (compile_neither .exhaustive)
    (tokenize_neither .exhaustive) .empty
  refine ⟨compile_neither .exhaustive, ?_⟩
  rw [← Bool.not_eq_true, h (fun id => id == 2) (by decide)]
  decide

/-! ## Only first disjuncts -/

/-- The atoms at fault are those of the violated literals. -/
theorem Compiled.mem_firstDisjunct_faults_iff (hg : Compiled d g)
    (hmode : d.blame = .firstDisjunct) (he : tokenize (normalize d.logic) = .ok e.tokens)
    {outcomes : ById Bool} {id : AtomId} :
    id ∈ g.faults outcomes ↔
      ∃ s, (id, s) ∈ e.literals true ∧ Group.outcomeOf outcomes id ≠ s := by
  obtain ⟨t, ht, -, -, hcharges, -⟩ := hg.exists_tree he
  have hfaults : g.faults outcomes = t.root.markedFaults (Group.outcomeOf outcomes) := by
    rw [Group.faults, ht, hg.blame, hmode]
    rfl
  rw [hfaults, Formula.mem_markedFaults_iff, hcharges]

/-- Every literal is one of an atom of the group. -/
theorem Compiled.exists_atom_of_mem_literals (hg : Compiled d g)
    (he : tokenize (normalize d.logic) = .ok e.tokens) {id : AtomId} {s : Bool}
    (h : (id, s) ∈ e.literals true) : ∃ a ∈ g.atoms, a.id = id := by
  obtain ⟨t, -, -, -, hcharges, hleaves⟩ := hg.exists_tree he
  rw [← hcharges] at h
  obtain ⟨l, hl, rfl⟩ := Formula.exists_leaf_of_mem_charges h
  have hid := List.mem_map_of_mem (f := Leaf.id) hl
  rw [hleaves, Token.mem_filterMap_id?] at hid
  exact hg.exists_atom he hid

/-- **The first-disjunct mode reports the violated literals.** A group is compiled in this mode,
and its logic is an expression. Then every literal is one of an atom of the group, the reasons of
a record are the messages of the atoms with a violated literal, the record fits exactly if there
are none, and records with the same outcomes of these atoms have the same verdict. -/
theorem firstDisjunct_reasons_iff_violated (hc : c.Reachable) (hmode : d.blame = .firstDisjunct)
    (h : (d.compileWith c).1 = .ok g) (he : tokenize (normalize d.logic) = .ok e.tokens)
    (r : Record) :
    (g.atoms.map Atom.id).Nodup ∧ (∀ id s, (id, s) ∈ e.literals true → ∃ a ∈ g.atoms, a.id = id) ∧
      ((g.evaluate r).reasons.map Prod.fst).Nodup ∧
      (∀ id message, (id, message) ∈ (g.evaluate r).reasons ↔
        ∃ a ∈ g.atoms, a.id = id ∧ a.message = message ∧
          ∃ s, (id, s) ∈ e.literals true ∧ a.judge r ≠ s) ∧
      ((g.evaluate r).fits = true ↔ (g.evaluate r).reasons = []) ∧
      ∀ r', (∀ a ∈ g.atoms, (∃ s, (a.id, s) ∈ e.literals true) → a.judge r' = a.judge r) →
        g.evaluate r' = g.evaluate r := by
  have hg := compiled_of_compileWith hc h
  have hfault : ∀ r, ∀ a ∈ g.atoms, a.id ∈ g.faults (g.outcomes r) ↔
      ∃ s, (a.id, s) ∈ e.literals true ∧ a.judge r ≠ s := by
    intro r a ha
    rw [hg.mem_firstDisjunct_faults_iff hmode he, Group.outcomeOf_outcomes hg.nodup ha]
  refine ⟨hg.nodup, fun id s hs => hg.exists_atom_of_mem_literals he hs,
    Group.nodup_reasons hg.nodup _, fun id message => ?_, Verdict.fits_iff _, fun r' hr => ?_⟩
  · rw [Group.evaluate, Group.mem_reasons_iff]
    constructor
    · rintro ⟨a, ha, rfl, hm, hid⟩
      exact ⟨a, ha, rfl, hm, (hfault r a ha).mp hid⟩
    · rintro ⟨a, ha, rfl, hm, hs⟩
      exact ⟨a, ha, rfl, hm, (hfault r a ha).mpr hs⟩
  · refine Group.verdictOf_congr fun a ha => ?_
    rw [hfault r' a ha, hfault r a ha]
    refine exists_congr fun s => and_congr_right fun hs => ?_
    rw [hr a ha ⟨s, hs⟩]

/-- Only atom 1 counts: it is the reason why a record does not fit, and a record without it fits,
whatever atom 2 comes to. -/
theorem firstDisjunct_reasons_iff_violated_neither :
    ((neither .firstDisjunct).compileWith .empty).1 = .ok (neitherGroup .firstDisjunct) ∧
      (1, "a is x") ∈
        ((neitherGroup .firstDisjunct).evaluate ⟨[("a", .value (.text "x"))]⟩).reasons ∧
      ((neitherGroup .firstDisjunct).evaluate .empty).fits = true := by
  have h := fun r => firstDisjunct_reasons_iff_violated .empty rfl
    (compile_neither .firstDisjunct) (tokenize_neither .firstDisjunct) r
  refine ⟨compile_neither .firstDisjunct, ?_, ?_⟩
  · obtain ⟨-, -, -, hreasons, -⟩ := h ⟨[("a", .value (.text "x"))]⟩
    refine (hreasons 1 "a is x").mpr ⟨_, List.mem_cons_self, rfl, rfl, false, ?_, ?_⟩
    · exact List.mem_singleton.mpr rfl
    · decide
  · obtain ⟨-, -, -, hreasons, hfits, -⟩ := h .empty
    rw [hfits, List.eq_nil_iff_forall_not_mem]
    rintro ⟨id, message⟩ hmem
    obtain ⟨a, ha, rfl, -, s, hs, hne⟩ := (hreasons id message).mp hmem
    have hkept : ∀ a ∈ (neitherGroup .firstDisjunct).atoms,
        (a.id, !a.judge .empty) ∉ neitherExpression.literals true := by decide
    rw [Bool.eq_not_of_ne hne.symm] at hs
    exact hkept a ha hs

end RuleVerdict
