import RuleVerdict.Proofs.Group.Checks
import RuleVerdict.Proofs.Group.Entries
import RuleVerdict.Proofs.Group.Explanations
import RuleVerdict.Proofs.Group.Verdicts
import RuleVerdict.Proofs.Logic.StableLayout

/-!
# The integrity of a compiled group

A verdict looks up the outcome of every atom that its tree refers to, takes an atom without an
outcome for one that does not fit, and reports only those faults that are atoms of the group. None
of this loses or makes up a fault: the ids of a compiled group are distinct, its logic is in normal
layout and its tree is the one of its logic, and each leaf of the tree stands for one atom of the
group.

* `Group.Coherent`: what holds of every compiled group.
* `Compiled.blames_iff_mem_faults`: the outcomes of the atoms alone decide which atoms are blamed.
* `reasons_iff_blames`: the reasons of a verdict are the messages of the atoms that are blamed.
-/

namespace RuleVerdict

open Logic

variable {logic : String} {t : Tree} {truth truth' : AtomId → Bool} {id : AtomId}

/-! ## Faults depend on the leaves only -/

namespace Logic.Tree

theorem mem_markedFaults_congr (hAgree : ∀ l ∈ t.root.leaves, truth l.id = truth' l.id) :
    id ∈ t.markedFaults truth ↔ id ∈ t.markedFaults truth' := by
  rw [mem_markedFaults_iff, mem_markedFaults_iff]
  apply exists_congr
  intro l
  apply and_congr_right
  intro hl
  rw [hAgree l hl]

theorem exists_leaf_of_mem_divergingFaults (hBuild : Tree.build logic = .ok t)
    (h : id ∈ t.divergingFaults truth) : ∃ l ∈ t.root.leaves, l.id = id := by
  rw [divergingFaults_eq] at h
  exact Formula.exists_leaf_of_mem_divergingAt (proper_root hBuild) h .root

theorem divergingFaults_subset_of_agree (hBuild : Tree.build logic = .ok t)
    (hAgree : ∀ l ∈ t.root.leaves, truth l.id = truth' l.id) :
    t.divergingFaults truth ⊆ t.divergingFaults truth' := by
  have hFaults : ∀ id ∈ t.root.divergingAt truth true, truth' id = truth id := by
    intro id hid
    obtain ⟨l, hl, rfl⟩ := Formula.exists_leaf_of_mem_divergingAt (proper_root hBuild) hid .root
    exact (hAgree l hl).symm
  rw [divergingFaults_eq, divergingFaults_eq]
  exact (Formula.persists_of_agree (proper_root hBuild) hFaults).reached

theorem mem_divergingFaults_congr (hBuild : Tree.build logic = .ok t)
    (hAgree : ∀ l ∈ t.root.leaves, truth l.id = truth' l.id) :
    id ∈ t.divergingFaults truth ↔ id ∈ t.divergingFaults truth' := by
  constructor
  · intro h
    exact divergingFaults_subset_of_agree hBuild hAgree h
  · intro h
    exact divergingFaults_subset_of_agree hBuild (fun l hl => (hAgree l hl).symm) h

end Logic.Tree

/-! ## The atoms that are blamed -/

namespace Group

/-- The atom is blamed when atoms come to the given outcomes: without a tree because it does not
fit, and else by the way in which the group looks for faults in its tree. -/
def Blames (g : Group) (truth : AtomId → Bool) (id : AtomId) : Prop :=
  match g.tree with
  | none => ∃ a ∈ g.atoms, a.id = id ∧ truth id = false
  | some t =>
    match g.blame with
    | .firstDisjunct => id ∈ t.markedFaults truth
    | .exhaustive => id ∈ t.divergingFaults truth

/-- The atoms of the leaves from left to right; without a tree there are none. -/
def leafIds (g : Group) : List AtomId :=
  match g.tree with
  | none => []
  | some t => t.root.leaves.map Leaf.id

/-- What holds of every compiled group. -/
structure Coherent (g : Group) : Prop where
  nodup : (g.atoms.map Atom.id).Nodup
  normal : normalize g.logic = g.logic
  tree_isSome_iff : g.tree.isSome = true ↔ g.logic ≠ ""
  build_of_tree : ∀ t, g.tree = some t → Tree.build g.logic = .ok t
  existsUnique_atom : ∀ t, g.tree = some t → ∀ l ∈ t.root.leaves, ∃! a, a ∈ g.atoms ∧ a.id = l.id

end Group

variable {d : GroupDefinition} {c : TreeCache} {g : Group}

namespace Compiled

theorem eq_none_or_exists_expression (hg : Compiled d g) :
    g.logic = "" ∧ g.tree = none ∨
      g.logic ≠ "" ∧ ∃ e : OrChain AtomId, tokenize (normalize d.logic) = .ok e.tokens := by
  by_cases hBlank : g.logic = ""
  · exact .inl ⟨hBlank, hg.noTree hBlank⟩
  · obtain ⟨ts, hTokens, hShape, -⟩ := hg.tokens hBlank
    obtain ⟨e, rfl⟩ := checkShape_eq_ok_iff.mp hShape
    rw [hg.logic] at hTokens
    exact .inr ⟨hBlank, e, hTokens⟩

/-- The leaves of the tree are the ids of the logic in order. -/
theorem exists_tokens (hg : Compiled d g) :
    ∃ ts, tokenize (normalize d.logic) = .ok ts ∧ g.leafIds = ts.filterMap Token.id? ∧
      ∀ id ∈ g.leafIds, ∃ a ∈ g.atoms, a.id = id := by
  rcases hg.eq_none_or_exists_expression with ⟨hBlank, hNone⟩ | ⟨-, e, he⟩
  · refine ⟨[], ?_, ?_, ?_⟩
    · rw [← hg.logic, hBlank]
      rfl
    · rw [Group.leafIds, hNone]
      rfl
    · rw [Group.leafIds, hNone]
      nofun
  · obtain ⟨t, ht, -, -, -, hLeaves⟩ := hg.exists_tree he
    have hIds : g.leafIds = e.tokens.filterMap Token.id? := by rw [Group.leafIds, ht, ← hLeaves]
    refine ⟨e.tokens, he, hIds, ?_⟩
    intro id hid
    rw [hIds, Token.mem_filterMap_id?] at hid
    exact hg.exists_atom he hid

theorem exists_atom_of_leaf (hg : Compiled d g) (ht : g.tree = some t) {l : Leaf}
    (hl : l ∈ t.root.leaves) : ∃ a ∈ g.atoms, a.id = l.id := by
  obtain ⟨-, -, -, hAtom⟩ := hg.exists_tokens
  apply hAtom
  rw [Group.leafIds, ht]
  exact List.mem_map_of_mem hl

theorem build_of_tree (hg : Compiled d g) (ht : g.tree = some t) :
    Tree.build g.logic = .ok t := by
  have hNe : g.logic ≠ "" := by
    intro hBlank
    rw [hg.noTree hBlank] at ht
    cases ht
  obtain ⟨u, hBuild, hu⟩ := hg.tree hNe
  obtain rfl : t = u := Option.some.inj (ht.symm.trans hu)
  exact hBuild

theorem coherent (hg : Compiled d g) : g.Coherent where
  nodup := hg.nodup
  normal := by rw [hg.logic, normalize_normalize]
  tree_isSome_iff := by
    constructor
    · intro hSome hBlank
      rw [hg.noTree hBlank] at hSome
      cases hSome
    · intro hNe
      obtain ⟨t, -, ht⟩ := hg.tree hNe
      rw [ht]
      rfl
  build_of_tree := fun t ht => hg.build_of_tree ht
  existsUnique_atom := by
    intro t ht l hl
    obtain ⟨a, ha, hid⟩ := hg.exists_atom_of_leaf ht hl
    refine ⟨a, ⟨ha, hid⟩, ?_⟩
    rintro b ⟨hb, hbid⟩
    exact List.inj_on_of_nodup_map hg.nodup hb ha (hbid.trans hid.symm)

/-- Which atoms are blamed is decided by the outcomes of the atoms, and these are the faults that a
verdict finds. -/
theorem blames_iff_mem_faults (hg : Compiled d g) {r : Record}
    (hTruth : ∀ a ∈ g.atoms, truth a.id = a.judge r) :
    g.Blames truth id ↔ id ∈ g.faults (g.outcomes r) := by
  cases ht : g.tree with
  | none =>
    rw [Group.mem_faults_outcomes_of_no_tree ht, Group.Blames, ht]
    apply exists_congr
    intro a
    apply and_congr_right
    intro ha
    apply and_congr_right
    rintro rfl
    rw [hTruth a ha]
  | some t =>
    have hAgree : ∀ l ∈ t.root.leaves, truth l.id = Group.outcomeOf (g.outcomes r) l.id := by
      intro l hl
      obtain ⟨a, ha, hid⟩ := hg.exists_atom_of_leaf ht hl
      rw [← hid, hTruth a ha, Group.outcomeOf_outcomes hg.nodup ha]
    rw [Group.Blames, Group.faults, ht]
    cases g.blame with
    | firstDisjunct => exact Tree.mem_markedFaults_congr hAgree
    | exhaustive => exact Tree.mem_divergingFaults_congr (hg.build_of_tree ht) hAgree

/-- Only atoms of the group are blamed. -/
theorem exists_atom_of_blames (hg : Compiled d g) (h : g.Blames truth id) :
    ∃ a ∈ g.atoms, a.id = id := by
  cases ht : g.tree with
  | none =>
    rw [Group.Blames, ht] at h
    obtain ⟨a, ha, hid, -⟩ := h
    exact ⟨a, ha, hid⟩
  | some t =>
    have hLeaf : ∃ l ∈ t.root.leaves, l.id = id := by
      rw [Group.Blames, ht] at h
      cases hMode : g.blame with
      | firstDisjunct =>
        rw [hMode] at h
        obtain ⟨l, hl, -, -, hid⟩ := Tree.mem_markedFaults_iff.mp h
        exact ⟨l, hl, hid⟩
      | exhaustive =>
        rw [hMode] at h
        exact Tree.exists_leaf_of_mem_divergingFaults (hg.build_of_tree ht) h
    obtain ⟨l, hl, rfl⟩ := hLeaf
    exact hg.exists_atom_of_leaf ht hl

end Compiled

/-- **No failure is lost.** A compiled group is coherent, and the ids that its logic refers to are
those of the leaves, without the later repeats. Under any assignment that gives each atom its
outcome on a record, the reasons of the record are the messages of the atoms that are blamed, and
the record fits exactly if none is. -/
theorem reasons_iff_blames (hc : c.Reachable) (h : (d.compileWith c).1 = .ok g) :
    g.Coherent ∧ g.logic = normalize d.logic ∧
      (∃ ts, tokenize (normalize d.logic) = .ok ts ∧ referenced ts = g.leafIds.eraseDups) ∧
      ∀ (r : Record) (truth : AtomId → Bool), (∀ a ∈ g.atoms, truth a.id = a.judge r) →
        ((g.evaluate r).reasons.map Prod.fst).Nodup ∧
        (∀ id, id ∈ (g.evaluate r).reasons.map Prod.fst ↔ g.Blames truth id) ∧
        (∀ id message, (id, message) ∈ (g.evaluate r).reasons →
          ∃ a ∈ g.atoms, a.id = id ∧ a.message = message) ∧
        ((g.evaluate r).fits = true ↔ ∀ id, ¬g.Blames truth id) := by
  have hg := compiled_of_compileWith hc h
  obtain ⟨ts, hTokens, hIds, -⟩ := hg.exists_tokens
  refine ⟨hg.coherent, hg.logic, ⟨ts, hTokens, by rw [referenced, hIds]⟩, ?_⟩
  intro r truth hTruth
  have hKeys : ∀ id, id ∈ (g.evaluate r).reasons.map Prod.fst ↔ g.Blames truth id := by
    intro id
    constructor
    · intro hid
      obtain ⟨⟨i, message⟩, hEntry, rfl⟩ := List.mem_map.mp hid
      obtain ⟨a, -, -, -, hFault⟩ := Group.mem_reasons_iff.mp hEntry
      exact (hg.blames_iff_mem_faults hTruth).mpr hFault
    · intro hBlames
      obtain ⟨a, ha, rfl⟩ := hg.exists_atom_of_blames hBlames
      have hFault := (hg.blames_iff_mem_faults hTruth).mp hBlames
      exact List.mem_map.mpr
        ⟨(a.id, a.message), Group.mem_reasons_iff.mpr ⟨a, ha, rfl, rfl, hFault⟩, rfl⟩
  refine ⟨Group.nodup_reasons hg.nodup _, hKeys, ?_, ?_⟩
  · intro id message hEntry
    obtain ⟨a, ha, hid, hMessage, -⟩ := Group.mem_reasons_iff.mp hEntry
    exact ⟨a, ha, hid, hMessage⟩
  · rw [Verdict.fits_iff, ← List.map_eq_nil_iff (f := Prod.fst), List.eq_nil_iff_forall_not_mem]
    exact forall_congr' fun id => not_congr (hKeys id)

/-- A record without `b`: atom 2 fits although it should not, and it is the reason that is given. -/
theorem reasons_iff_blames_neither :
    ((neither .exhaustive).compileWith .empty).1 = .ok (neitherGroup .exhaustive) ∧
      (neitherGroup .exhaustive).Coherent ∧
      2 ∈ ((neitherGroup .exhaustive).evaluate .empty).reasons.map Prod.fst ∧
      ((neitherGroup .exhaustive).evaluate .empty).fits = false := by
  obtain ⟨hCoherent, -, -, hVerdict⟩ := reasons_iff_blames .empty (compile_neither .exhaustive)
  obtain ⟨-, hKeys, -, hFits⟩ := hVerdict .empty (fun id => id == 2) (by decide)
  have hBlames : (neitherGroup .exhaustive).Blames (fun id => id == 2) 2 := by
    change 2 ∈ Tree.divergingFaults _ _
    decide +kernel
  refine ⟨compile_neither .exhaustive, hCoherent, (hKeys 2).mpr hBlames, ?_⟩
  rw [← Bool.not_eq_true, hFits]
  intro hNone
  exact hNone 2 hBlames

end RuleVerdict
