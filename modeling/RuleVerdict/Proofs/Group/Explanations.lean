import RuleVerdict.Group.Verdict
import RuleVerdict.Proofs.Logic.Depth
import RuleVerdict.Proofs.Logic.Divergence
import RuleVerdict.Proofs.Logic.Meaning
import RuleVerdict.Proofs.Logic.NodeValues

/-!
# What the faults of a tree are good for

The atoms at fault are meant to explain to a rule author why a record does not fit. The faults of
the exhaustive mode are a sufficient cause: with these outcomes the tree is false, whatever the
other atoms come to. They are also a repair: with these outcomes turned around it is true. And in
both modes it never does harm to correct an atom.

* `divergingFaults_suffice`: what stays false, and at fault, as long as the faults stay.
* `root_true_of_faults_turned`: what becomes true when the faults are turned around.
* `faults_subset_of_corrected`: what is at fault after some atoms were corrected, was before.
-/

namespace RuleVerdict

open Logic

variable {logic : String} {t : Tree} {truth truth' : AtomId → Bool}

namespace Logic.Tree

theorem values_root_eq_iff {b : Bool} :
    (t.values truth)[0]? = some b ↔ t.root.value truth = b := by
  rw [values_root, Option.some.injEq]

/-- Every leaf says what it demands. -/
theorem map_demandOf_leaves (t : Tree) :
    t.root.leaves.map Formula.demandOf = t.root.demands true :=
  Formula.map_demandOf_leavesAt t.root .root

theorem map_fst_demands (t : Tree) :
    (t.root.demands true).map Prod.fst = t.root.leaves.map Leaf.id := by
  rw [← map_demandOf_leaves, List.map_map]
  rfl

/-- Corrected leaves meet demands. -/
theorem corrected_demands (h : ∀ l ∈ t.root.leaves, truth' l.id ≠ truth l.id →
    truth' l.id = l.mark.should) :
    ∀ p ∈ t.root.demands true, truth' p.1 ≠ truth p.1 → truth' p.1 = p.2 := by
  intro p hp
  rw [← map_demandOf_leaves] at hp
  obtain ⟨l, hl, rfl⟩ := List.mem_map.mp hp
  exact h l hl

theorem mem_markedFaults_iff {id : AtomId} : id ∈ t.markedFaults truth ↔
    ∃ l ∈ t.root.leaves, l.mark.blamed = true ∧ truth l.id ≠ l.mark.should ∧ l.id = id := by
  simp [markedFaults, Formula.markedFaults, and_assoc]

end Logic.Tree

/-- **The faults are a sufficient cause.** If the root of a tree is false, some atoms are at fault
along its diverging paths. As long as these keep their outcomes, and whatever the others come to,
the root is false and they are at fault. -/
theorem divergingFaults_suffice (h : Tree.build logic = .ok t) {outcomes : ById Bool}
    (hfalse : (t.values (Group.outcomeOf outcomes))[0]? = some false) :
    t.divergingFaults (Group.outcomeOf outcomes) ≠ [] ∧
      ∀ others : ById Bool,
        (∀ id ∈ t.divergingFaults (Group.outcomeOf outcomes),
          Group.outcomeOf others id = Group.outcomeOf outcomes id) →
        (t.values (Group.outcomeOf others))[0]? = some false ∧
          t.divergingFaults (Group.outcomeOf outcomes) ⊆
            t.divergingFaults (Group.outcomeOf others) := by
  have hp := Tree.proper_root h
  simp only [Tree.values_root_eq_iff, Tree.divergingFaults_eq] at hfalse ⊢
  constructor
  · rw [ne_eq, Formula.divergingFaults_eq_nil_iff hp, hfalse]
    decide
  · intro others hagree
    have hpersists := Formula.persists_of_agree hp hagree
    refine ⟨?_, hpersists.reached⟩
    exact eq_false_of_ne_true (hpersists.diverges (by rw [hfalse]; decide))

/-- The tree of `1 and ( 2 or not 1 ) and 3`, in which atom 1 has two leaves that should not be
worth the same. -/
def twoSidedTree : Tree :=
  { logic := "1 and ( 2 or not 1 ) and 3"
    root := .conjunction "1 and ( 2 or not 1 ) and 3"
      [.atom 1, .disjunction "2 or not 1" [.atom 2, .negation "not 1" (.atom 1)], .atom 3] }

/-- The expression that it is read from. -/
def twoSidedExpression : OrChain Numeral :=
  .last (.and (.atom ⟨"1", 1, by decide +kernel⟩) (.and (.brackets
    (.or (.last (.atom ⟨"2", 2, by decide +kernel⟩))
      (.last (.last (.not (.atom ⟨"1", 1, by decide +kernel⟩))))))
    (.last (.atom ⟨"3", 3, by decide +kernel⟩))))

theorem build_twoSidedTree : Tree.build "1 and ( 2 or not 1 ) and 3" = .ok twoSidedTree := by
  have hwords : words "1 and ( 2 or not 1 ) and 3" = twoSidedExpression.words := by decide +kernel
  exact Tree.build_eq_ok_of_words hwords (by decide)

/-- As long as atom 1 is true and atom 2 is false the root is false, also when atom 3 fails. -/
theorem divergingFaults_suffice_twoSidedTree :
    twoSidedTree.divergingFaults (Group.outcomeOf [(1, true), (2, false), (3, true)]) = [2, 1] ∧
      (twoSidedTree.values (Group.outcomeOf [(1, true)]))[0]? = some false ∧
      [2, 1] ⊆ twoSidedTree.divergingFaults (Group.outcomeOf [(1, true)]) := by
  have hfaults : twoSidedTree.divergingFaults
      (Group.outcomeOf [(1, true), (2, false), (3, true)]) = [2, 1] := by
    decide +kernel
  have hfalse : (twoSidedTree.values
      (Group.outcomeOf [(1, true), (2, false), (3, true)]))[0]? = some false := by
    decide +kernel
  have h := (divergingFaults_suffice build_twoSidedTree hfalse).2 [(1, true)]
  simp only [hfaults, List.forall_mem_cons] at h
  exact ⟨hfaults, h ⟨by decide +kernel, by decide +kernel, nofun⟩⟩

/-- **The faults are a repair.** No atom has two leaves in a tree. If the outcomes of the atoms at
fault along its diverging paths are turned around, and the others are kept, then the root is true
and no atom is at fault any more. -/
theorem root_true_of_faults_turned (h : Tree.build logic = .ok t)
    (hids : (t.root.leaves.map Leaf.id).Nodup) {outcomes turned : ById Bool}
    (hturned : ∀ id ∈ t.divergingFaults (Group.outcomeOf outcomes),
      Group.outcomeOf turned id = !Group.outcomeOf outcomes id)
    (hkept : ∀ id, id ∉ t.divergingFaults (Group.outcomeOf outcomes) →
      Group.outcomeOf turned id = Group.outcomeOf outcomes id) :
    (t.values (Group.outcomeOf turned))[0]? = some true ∧
      t.divergingFaults (Group.outcomeOf turned) = [] := by
  have hp := Tree.proper_root h
  simp only [Tree.values_root_eq_iff, Tree.divergingFaults_eq] at hturned hkept ⊢
  have hvalue : t.root.value (Group.outcomeOf turned) = true := by
    rw [← Tree.map_fst_demands] at hids
    exact Formula.value_of_turned hp hids ⟨hturned, fun id _ => hkept id⟩
  exact ⟨hvalue, (Formula.divergingFaults_eq_nil_iff hp).mpr hvalue⟩

/-- The tree of `1 and ( 2 or not 3 )`. -/
def spareTree : Tree :=
  { logic := "1 and ( 2 or not 3 )"
    root := .conjunction "1 and ( 2 or not 3 )"
      [.atom 1, .disjunction "2 or not 3" [.atom 2, .negation "not 3" (.atom 3)]] }

/-- The expression that it is read from. -/
def spareExpression : OrChain Numeral :=
  .last (.and (.atom ⟨"1", 1, by decide +kernel⟩) (.last (.brackets
    (.or (.last (.atom ⟨"2", 2, by decide +kernel⟩))
      (.last (.last (.not (.atom ⟨"3", 3, by decide +kernel⟩))))))))

theorem build_spareTree : Tree.build "1 and ( 2 or not 3 )" = .ok spareTree := by
  have hwords : words "1 and ( 2 or not 3 )" = spareExpression.words := by decide +kernel
  exact Tree.build_eq_ok_of_words hwords (by decide)

/-- Atom 1 fits, atom 2 has no outcome and counts as false, and atom 3 should not fit but does: to
turn around atoms 2 and 3 repairs the tree. -/
theorem root_true_of_faults_turned_spareTree :
    spareTree.divergingFaults (Group.outcomeOf [(1, true), (3, true)]) = [2, 3] ∧
      (spareTree.values (Group.outcomeOf [(1, true), (2, true), (3, false)]))[0]? = some true ∧
      spareTree.divergingFaults (Group.outcomeOf [(1, true), (2, true), (3, false)]) = [] := by
  have hfaults : spareTree.divergingFaults (Group.outcomeOf [(1, true), (3, true)]) = [2, 3] := by
    decide +kernel
  have hturned : ∀ id ∈ spareTree.divergingFaults (Group.outcomeOf [(1, true), (3, true)]),
      Group.outcomeOf [(1, true), (2, true), (3, false)] id =
        !Group.outcomeOf [(1, true), (3, true)] id := by
    simp only [hfaults, List.forall_mem_cons]
    exact ⟨by decide +kernel, by decide +kernel, nofun⟩
  have hkept : ∀ id, id ∉ spareTree.divergingFaults (Group.outcomeOf [(1, true), (3, true)]) →
      Group.outcomeOf [(1, true), (2, true), (3, false)] id =
        Group.outcomeOf [(1, true), (3, true)] id := by
    intro id hid
    rw [hfaults, List.mem_cons, List.mem_singleton, not_or] at hid
    have h2 : (2 == id) = false := beq_eq_false_iff_ne.mpr (Ne.symm hid.1)
    have h3 : (3 == id) = false := beq_eq_false_iff_ne.mpr (Ne.symm hid.2)
    simp [Group.outcomeOf, ById.find?, List.find?_cons, h2, h3]
  exact ⟨hfaults, root_true_of_faults_turned build_spareTree (by decide +kernel) hturned hkept⟩

/-- **Correcting an atom does no harm.** Some outcomes are changed, and each atom of a tree whose
outcome has changed now has the one that its leaves should have. Then no atom is at fault that was
not before, neither by the marks nor along diverging paths, and a root that was true is true. -/
theorem faults_subset_of_corrected (h : Tree.build logic = .ok t) {outcomes corrected : ById Bool}
    (hcorrected : ∀ l ∈ t.root.leaves,
      Group.outcomeOf corrected l.id ≠ Group.outcomeOf outcomes l.id →
        Group.outcomeOf corrected l.id = l.mark.should) :
    t.markedFaults (Group.outcomeOf corrected) ⊆ t.markedFaults (Group.outcomeOf outcomes) ∧
      t.divergingFaults (Group.outcomeOf corrected) ⊆
        t.divergingFaults (Group.outcomeOf outcomes) ∧
      ((t.values (Group.outcomeOf outcomes))[0]? = some true →
        (t.values (Group.outcomeOf corrected))[0]? = some true) := by
  have hp := Tree.proper_root h
  have hdemands := Tree.corrected_demands hcorrected
  simp only [Tree.values_root_eq_iff, Tree.divergingFaults_eq]
  refine ⟨?_, (Formula.persists_of_corrected hp hdemands).reached,
    Formula.value_of_corrected hp hdemands⟩
  intro id hid
  obtain ⟨l, hl, hb, hne, rfl⟩ := Tree.mem_markedFaults_iff.mp hid
  refine Tree.mem_markedFaults_iff.mpr ⟨l, hl, hb, fun he => hne (hcorrected l hl ?_), rfl⟩
  exact fun hsame => hne (hsame.trans he)

/-- Atom 3 should not fit. When it no longer does, nothing else is at fault than before. -/
theorem faults_subset_of_corrected_spareTree :
    spareTree.divergingFaults (Group.outcomeOf [(3, true)]) = [1, 2, 3] ∧
      spareTree.divergingFaults (Group.outcomeOf [(3, false)]) ⊆ [1, 2, 3] ∧
      spareTree.markedFaults (Group.outcomeOf [(3, false)]) ⊆
        spareTree.markedFaults (Group.outcomeOf [(3, true)]) := by
  have hfaults : spareTree.divergingFaults (Group.outcomeOf [(3, true)]) = [1, 2, 3] := by
    decide +kernel
  have hcorrected : ∀ l ∈ spareTree.root.leaves,
      Group.outcomeOf [(3, false)] l.id ≠ Group.outcomeOf [(3, true)] l.id →
        Group.outcomeOf [(3, false)] l.id = l.mark.should := by
    decide +kernel
  obtain ⟨hmarked, hdiverging, -⟩ := faults_subset_of_corrected build_spareTree hcorrected
  rw [hfaults] at hdiverging
  exact ⟨hfaults, hdiverging, hmarked⟩

end RuleVerdict
