import RuleVerdict.Proofs.Group.Entries
import RuleVerdict.Proofs.Logic.Depth
import RuleVerdict.Proofs.Logic.Meaning
import RuleVerdict.Proofs.Logic.NodeValues
import RuleVerdict.Proofs.Logic.Trust

/-!
# The two blame modes

By its marked leaves a tree can pass although its root is false. The shape of the tree alone
decides whether there are outcomes for which that happens.

* `passes_only_if_true_iff_sure`: if the tree is sure there are none, and else, if no atom has two
  leaves, there are.
-/

namespace RuleVerdict

open Logic

/-- The outcomes under which every leaf is what it should be if it is blamed, and the opposite if
it is not. -/
def pretence (f : Formula) : ById Bool :=
  f.leaves.map fun l => (l.id, l.mark.blamed == l.mark.should)

theorem map_fst_pretence (f : Formula) : (pretence f).map Prod.fst = f.leaves.map Leaf.id := by
  rw [pretence, List.map_map]
  rfl

theorem outcomeOf_pretence {f : Formula} (hids : (f.leaves.map Leaf.id).Nodup) {l : Leaf}
    (hl : l ∈ f.leaves) :
    Group.outcomeOf (pretence f) l.id = (l.mark.blamed == l.mark.should) := by
  rw [Group.outcomeOf, ById.find?_of_mem (v := l.mark.blamed == l.mark.should)]
  · rfl
  · rwa [map_fst_pretence]
  · exact List.mem_map.mpr ⟨l, hl, rfl⟩

/-- **When the marks can be trusted.** If a tree is sure, its root is true whenever no atom is at
fault by the marks. If it is not, and no atom has two leaves, then some outcomes leave no atom at
fault although the root is false. -/
theorem passes_only_if_true_iff_sure {logic : String} {t : Tree} (h : Tree.build logic = .ok t) :
    (t.sure = true → ∀ outcomes : ById Bool, t.markedFaults (Group.outcomeOf outcomes) = [] →
      (t.values (Group.outcomeOf outcomes))[0]? = some true) ∧
    ((t.root.leaves.map Leaf.id).Nodup → t.sure = false →
      ∃ outcomes : ById Bool, (outcomes.map Prod.fst).Nodup ∧
        t.markedFaults (Group.outcomeOf outcomes) = [] ∧
        (t.values (Group.outcomeOf outcomes))[0]? = some false) := by
  have hp := Tree.proper_root h
  constructor
  · intro hs outcomes hpass
    rw [Tree.values_root, Formula.value_of_sureAt hp hs rfl (Tree.markedFaults_eq_nil_iff.mp hpass)]
    rfl
  · intro hids hs
    have hl : ∀ l ∈ t.root.leaves,
        Group.outcomeOf (pretence t.root) l.id = (l.mark.blamed == l.mark.should) :=
      fun l hl => outcomeOf_pretence hids hl
    refine ⟨pretence t.root, ?_, ?_, ?_⟩
    · rwa [map_fst_pretence]
    · refine Tree.markedFaults_eq_nil_iff.mpr fun l hlm hb => ?_
      rw [hl l hlm, hb, Bool.true_beq]
    · rw [Tree.values_root, Formula.value_of_pretence hp (fun _ => hs) hl]
      rfl

theorem build_or_below_not : Tree.build "not ( 1 or 2 )" =
    .ok { logic := "not ( 1 or 2 )",
          root := .negation "not ( 1 or 2 )" (.disjunction "1 or 2" [.atom 1, .atom 2]) } := by
  have hWords : words "not ( 1 or 2 )" =
      (OrChain.last (.last (.not (.brackets (.or (.last (.atom ⟨"1", 1, by decide +kernel⟩))
        (.last (.last (.atom ⟨"2", 2, by decide +kernel⟩)))))))).words := by
    decide +kernel
  exact Tree.build_eq_ok_of_words hWords (by decide)

theorem build_or_below_and : Tree.build "1 and ( 2 or 3 )" =
    .ok { logic := "1 and ( 2 or 3 )",
          root := .conjunction "1 and ( 2 or 3 )"
            [.atom 1, .disjunction "2 or 3" [.atom 2, .atom 3]] } := by
  have hWords : words "1 and ( 2 or 3 )" =
      (OrChain.last (.and (.atom ⟨"1", 1, by decide +kernel⟩) (.last (.brackets
        (.or (.last (.atom ⟨"2", 2, by decide +kernel⟩))
          (.last (.last (.atom ⟨"3", 3, by decide +kernel⟩)))))))).words := by
    decide +kernel
  exact Tree.build_eq_ok_of_words hWords (by decide)

/-- An `or` below a `not` can hide a false formula; below an `and` it hides nothing. -/
theorem passes_only_if_true_iff_sure_or_below_not :
    (∃ t, Tree.build "not ( 1 or 2 )" = .ok t ∧ ∃ outcomes : ById Bool,
      t.markedFaults (Group.outcomeOf outcomes) = [] ∧
        (t.values (Group.outcomeOf outcomes))[0]? = some false) ∧
    ∃ t, Tree.build "1 and ( 2 or 3 )" = .ok t ∧ ∀ outcomes : ById Bool,
      t.markedFaults (Group.outcomeOf outcomes) = [] →
        (t.values (Group.outcomeOf outcomes))[0]? = some true := by
  refine ⟨⟨_, build_or_below_not, ?_⟩, ⟨_, build_or_below_and, ?_⟩⟩
  · obtain ⟨outcomes, -, hpass, hvalue⟩ :=
      (passes_only_if_true_iff_sure build_or_below_not).2 (by decide +kernel) rfl
    exact ⟨outcomes, hpass, hvalue⟩
  · exact (passes_only_if_true_iff_sure build_or_below_and).1 rfl

end RuleVerdict
