import RuleVerdict.Proofs.Group.Integrity
import Mathlib.Data.List.Perm.Basic

/-!
# Rules that carry their ids

An atom without an id is numbered by its place among the others. When every rule carries its id,
the place is of no consequence: each rule has its own atom, whatever stands around it, and the
group depends on the order of the rules only in the order of its atoms. No judgement depends on
that order. Since a group shows the ids of its atoms, it can also be written down as a definition
with all ids, and compiling that definition gives the group back.

* `compile_eq_ok_iff_of_written`: which groups such a definition has.
* `compile_of_perm`: the order of the rules makes no difference.
* `compile_definition`: a group is rebuilt from its own parts.
-/

namespace RuleVerdict

open Logic

/-! ## Atoms of their own -/

/-- The atom has the id that the rule carries, and all its other parts. -/
structure AtomDefinition.Describes (d : AtomDefinition) (a : Atom) : Prop where
  id : d.id = some a.id
  op : Operator.ofSpelling? d.op = some a.op
  key : d.key = a.key
  literal : d.literal = a.literal
  message : d.message = a.message

theorem AtomDefinition.resolve_eq_ok_iff {d : AtomDefinition} {a : Atom} {id : AtomId}
    (hId : d.id = some id) : d.resolve id = .ok a ↔ d.Describes a := by
  unfold resolve
  constructor
  · intro h
    split at h
    · next op hOp =>
      cases h
      exact ⟨hId, hOp, rfl, rfl, rfl⟩
    · cases h
  · intro h
    obtain rfl : id = a.id := Option.some.inj (hId.symm.trans h.id)
    rw [h.op]
    exact congrArg Except.ok (Atom.ext_parts rfl h.key rfl h.literal h.message)

variable {rules rules' : List AtomDefinition} {atoms : List Atom}

theorem resolveAll_numbersFrom_iff (hIds : ∀ rule ∈ rules, rule.id.isSome = true) (n : Nat) :
    resolveAll rules (numbersFrom n rules) = .ok atoms ↔
      List.Forall₂ AtomDefinition.Describes rules atoms := by
  induction rules generalizing atoms with
  | nil =>
    have hNone : resolveAll [] (numbersFrom n []) = .ok [] := rfl
    rw [hNone, List.forall₂_nil_left_iff, Except.ok.injEq]
    exact eq_comm
  | cons rule rules ih =>
    obtain ⟨hRule, hRules⟩ := List.forall_mem_cons.mp hIds
    obtain ⟨id, hId⟩ := Option.isSome_iff_exists.mp hRule
    simp only [numbersFrom, hId, resolveAll]
    constructor
    · intro h
      split at h
      · cases h
      · next a ha =>
        obtain ⟨rest, hRest, rfl⟩ := map_eq_ok h
        exact .cons ((AtomDefinition.resolve_eq_ok_iff hId).mp ha) ((ih hRules).mp hRest)
    · rintro (_ | ⟨ha, hRest⟩)
      rw [(AtomDefinition.resolve_eq_ok_iff hId).mpr ha, (ih hRules).mpr hRest]
      rfl

theorem map_id_of_describes (h : List.Forall₂ AtomDefinition.Describes rules atoms) (n : Nat) :
    numbersFrom n rules = atoms.map Atom.id := by
  induction h with
  | nil => rfl
  | cons ha hRest ih => simp only [numbersFrom, ha.id, List.map_cons, ih]

/-- The rules are given their own atoms, if these have distinct ids. -/
theorem assignIds_and_resolveAll_iff (hIds : ∀ rule ∈ rules, rule.id.isSome = true)
    {ids : List AtomId} :
    (assignIds rules = .ok ids ∧ resolveAll rules ids = .ok atoms) ↔
      ids = atoms.map Atom.id ∧ ids.Nodup ∧ List.Forall₂ AtomDefinition.Describes rules atoms := by
  constructor
  · rintro ⟨hAssign, hResolve⟩
    have hNodup := (assignFrom_spec hAssign).2.1
    obtain rfl := eq_numbers_of_assignIds hAssign
    have hRules := (resolveAll_numbersFrom_iff hIds _).mp hResolve
    exact ⟨map_id_of_describes hRules _, hNodup, hRules⟩
  · rintro ⟨hAtoms, hNodup, hRules⟩
    obtain rfl : numbers rules = ids := (map_id_of_describes hRules _).trans hAtoms.symm
    exact ⟨assignIds_eq_ok hNodup, (resolveAll_numbersFrom_iff hIds _).mpr hRules⟩

namespace GroupDefinition

variable {d : GroupDefinition} {g : Group}

/-- The groups of a definition whose rules carry their ids. -/
theorem compile_eq_ok_iff_of_written (hIds : ∀ rule ∈ d.rules, rule.id.isSome = true) :
    d.compile = .ok g ↔
      ∃ atoms tree, List.Forall₂ AtomDefinition.Describes d.rules atoms ∧
        (atoms.map Atom.id).Nodup ∧ TreeFor (atoms.map Atom.id) (normalize d.logic) tree ∧
        g = d.group atoms tree := by
  rw [compile_eq_ok_iff]
  constructor
  · rintro ⟨ids, atoms, tree, hAssign, hResolve, hTree, rfl⟩
    obtain ⟨rfl, hNodup, hRules⟩ := (assignIds_and_resolveAll_iff hIds).mp ⟨hAssign, hResolve⟩
    exact ⟨atoms, tree, hRules, hNodup, hTree, rfl⟩
  · rintro ⟨atoms, tree, hRules, hNodup, hTree, rfl⟩
    obtain ⟨hAssign, hResolve⟩ :=
      (assignIds_and_resolveAll_iff hIds).mpr ⟨rfl, hNodup, hRules⟩
    exact ⟨_, atoms, tree, hAssign, hResolve, hTree, rfl⟩

end GroupDefinition

/-! ## Another order of the rules -/

theorem checkReferences_congr {ids ids' : List AtomId} (h : ∀ id, id ∈ ids ↔ id ∈ ids')
    (ts : List Token) : checkReferences ids ts = checkReferences ids' ts := by
  have hContains : ∀ id, ids.contains id = ids'.contains id := by
    intro id
    rw [Bool.eq_iff_iff, List.contains_iff_mem, List.contains_iff_mem, h]
  induction ts with
  | nil => rfl
  | cons t ts ih => simp only [checkReferences, hContains, ih]

/-- The tree of a logic does not depend on the order of the ids. -/
theorem GroupDefinition.TreeFor.congr {ids ids' : List AtomId} {logic : String}
    {tree : Option Tree} (h : ∀ id, id ∈ ids ↔ id ∈ ids') (hTree : TreeFor ids logic tree) :
    TreeFor ids' logic tree := by
  cases tree with
  | none => exact hTree
  | some t =>
    obtain ⟨hNe, hLogic, hBuild⟩ := hTree
    refine ⟨hNe, ?_, hBuild⟩
    rw [← hLogic, checkLogic, checkLogic]
    simp only [checkReferences_congr h]

theorem GroupDefinition.exists_compile_of_perm {d : GroupDefinition} {g : Group}
    (hIds : ∀ rule ∈ d.rules, rule.id.isSome = true) (hPerm : rules'.Perm d.rules)
    (h : d.compile = .ok g) :
    (g.atoms.map Atom.id).Nodup ∧ ∃ atoms', atoms'.Perm g.atoms ∧
      { d with rules := rules' }.compile = .ok { g with atoms := atoms' } := by
  obtain ⟨atoms, tree, hRules, hNodup, hTree, rfl⟩ := (compile_eq_ok_iff_of_written hIds).mp h
  obtain ⟨atoms', hRules', hAtoms⟩ := List.perm_comp_forall₂ hPerm hRules
  have hIdPerm := hAtoms.map Atom.id
  have hIds' : ∀ rule ∈ rules', rule.id.isSome = true := by
    intro rule hRule
    exact hIds rule (hPerm.mem_iff.mp hRule)
  have hTree' := hTree.congr fun id => hIdPerm.symm.mem_iff
  refine ⟨hNodup, atoms', hAtoms, ?_⟩
  rw [compile_eq_ok_iff_of_written hIds']
  exact ⟨atoms', tree, hRules', hIdPerm.nodup_iff.mpr hNodup, hTree', rfl⟩

/-- Entries with distinct ids are sorted in one way only. -/
theorem ById.sorted_eq_of_perm {α : Type} {entries entries' : ById α}
    (hIds : (entries.map Prod.fst).Nodup) (h : entries.Perm entries') :
    entries.sorted = entries'.sorted := by
  have hTrans : ∀ a b c : AtomId × α, decide (a.1 ≤ b.1) = true → decide (b.1 ≤ c.1) = true →
      decide (a.1 ≤ c.1) = true := by
    simp only [decide_eq_true_eq]
    exact fun _ _ _ => UInt32.le_trans
  have hTotal : ∀ a b : AtomId × α, (decide (a.1 ≤ b.1) || decide (b.1 ≤ a.1)) = true := by
    intro a b
    simpa using UInt32.le_total a.1 b.1
  have hSorted := List.pairwise_mergeSort hTrans hTotal entries
  have hSorted' := List.pairwise_mergeSort hTrans hTotal entries'
  have hPerm := ((sorted_perm entries).trans h).trans (sorted_perm entries').symm
  refine List.Perm.eq_of_pairwise ?_ hSorted hSorted' hPerm
  intro a b ha hb hab hba
  have hId : a.1 = b.1 := UInt32.le_antisymm (of_decide_eq_true hab) (of_decide_eq_true hba)
  have ha' := (sorted_perm entries).mem_iff.mp ha
  have hb' := h.mem_iff.mpr ((sorted_perm entries').mem_iff.mp hb)
  exact List.inj_on_of_nodup_map hIds ha' hb' hId

namespace Group

variable {g : Group}

/-- Atoms in another order come to the same outcomes, values and verdicts. -/
theorem report_of_perm (hIds : (g.atoms.map Atom.id).Nodup) {atoms' : List Atom}
    (h : atoms'.Perm g.atoms) (r : Record) :
    { g with atoms := atoms' }.report r = g.report r := by
  have hIds' : (atoms'.map Atom.id).Nodup := (h.map Atom.id).nodup_iff.mpr hIds
  have hEntries : ∀ {α : Type} (f : Atom → α) {as bs : List Atom}, (as.map Atom.id).Nodup →
      as.Perm bs →
      ById.sorted (as.map fun a => (a.id, f a)) = ById.sorted (bs.map fun a => (a.id, f a)) := by
    intro α f as bs hNodup hPerm
    apply ById.sorted_eq_of_perm
    · rwa [List.map_map]
    · exact hPerm.map _
  have hOutcomes : { g with atoms := atoms' }.outcomes r = g.outcomes r := hEntries _ hIds' h
  have hValues : { g with atoms := atoms' }.values r = g.values r := hEntries _ hIds' h
  have hVerdict : ∀ outcomes, { g with atoms := atoms' }.verdictOf outcomes =
      g.verdictOf outcomes := by
    intro outcomes
    have hFaults : { g with atoms := atoms' }.faults outcomes = g.faults outcomes := rfl
    rw [verdictOf, verdictOf, hFaults]
    congr 1
    apply hEntries
    · exact hIds'.sublist (List.filter_sublist.map Atom.id)
    · exact h.filter _
  simp only [report, hOutcomes, hValues, hVerdict]

end Group

/-! ## Groups as definitions -/

/-- The rule of an atom, with its operator in a given spelling. -/
def Atom.definition (spell : Operator → String) (a : Atom) : AtomDefinition :=
  ⟨spell a.op, a.key, a.literal, some a.id, a.message⟩

/-- The definition that shows all parts of a group. -/
def Group.definition (spell : Operator → String) (g : Group) : GroupDefinition :=
  ⟨g.atoms.map (Atom.definition spell), g.logic, g.name, some g.message, g.value, g.blame⟩

theorem Atom.describes_definition {spell : Operator → String}
    (hSpell : ∀ op, Operator.ofSpelling? (spell op) = some op) (a : Atom) :
    (a.definition spell).Describes a :=
  ⟨rfl, hSpell a.op, rfl, rfl, rfl⟩

variable {d : GroupDefinition} {c c' : TreeCache} {g : Group}

/-- The parts of a group pass the checks that they have passed before. -/
theorem Group.compile_definition_of_spelled {spell : Operator → String}
    (hSpell : ∀ op, Operator.ofSpelling? (spell op) = some op)
    (hNormal : normalize g.logic = g.logic) (h : d.compile = .ok g) :
    (g.definition spell).compile = .ok g := by
  obtain ⟨ids, atoms, tree, hAssign, hResolve, hTree, rfl⟩ :=
    GroupDefinition.compile_eq_ok_iff.mp h
  obtain ⟨hLength, hNodup, -⟩ := assignFrom_spec hAssign
  obtain rfl := map_id_of_resolveAll hLength hResolve
  have hIds : ∀ rule ∈ atoms.map (Atom.definition spell), rule.id.isSome = true := by
    intro rule hRule
    obtain ⟨a, -, rfl⟩ := List.mem_map.mp hRule
    rfl
  have hRules :
      List.Forall₂ AtomDefinition.Describes (atoms.map (Atom.definition spell)) atoms := by
    rw [List.forall₂_map_left_iff, List.forall₂_same]
    exact fun a _ => a.describes_definition hSpell
  rw [GroupDefinition.compile_eq_ok_iff_of_written hIds]
  refine ⟨atoms, tree, hRules, hNodup, ?_, ?_⟩
  · exact hNormal.symm ▸ hTree
  · have hLogic : normalize (normalize d.logic) = normalize d.logic := hNormal
    simp only [GroupDefinition.group, Group.definition, Option.getD_some, hLogic]

/-! ## A group with a numbered atom -/

/-- Only the second rule carries its id. -/
def reachable : GroupDefinition where
  rules := [⟨"@", "city", some (.text "Wien, Graz"), none, "lives elsewhere"⟩,
    ⟨"!=", "phone", some (.text ""), some 4, "has no phone"⟩]
  logic := "05OR not(4)"
  name := some "reachable"
  message := none
  value := some (.bool true)
  blame := .exhaustive

/-- The group of this definition. -/
def reachableGroup : Group :=
  { name := some "reachable", message := "", value := some (.bool true), blame := .exhaustive,
    atoms := [⟨5, "city", .isIn, some (.text "Wien, Graz"), "lives elsewhere", _, rfl⟩,
      ⟨4, "phone", .compare .ne, some (.text ""), "has no phone", _, rfl⟩],
    logic := "05 or not ( 4 )",
    tree := some ⟨"05 or not ( 4 )",
      .disjunction "05 or not ( 4 )" [.atom 5, .negation "not ( 4 )" (.atom 4)], _, rfl⟩ }

theorem compile_reachable : reachable.compile = .ok reachableGroup := by
  have hNormal : normalize reachable.logic = "05 or not ( 4 )" := by decide +kernel
  have hLogic : checkLogic [5, 4] "05 or not ( 4 )" = .ok () := by decide +kernel
  have hWords : words "05 or not ( 4 )" =
      (OrChain.or (.last (.atom ⟨"05", 5, by decide +kernel⟩)) (.last (.last (.not (.brackets
        (.last (.last (.atom ⟨"4", 4, by decide +kernel⟩)))))))).words := by
    decide +kernel
  have hBuild := Tree.build_eq_ok_of_words hWords (by decide)
  rw [GroupDefinition.compile_eq_ok_iff, hNormal]
  refine ⟨[5, 4], reachableGroup.atoms, some _, rfl, rfl, ⟨by decide, hLogic, hBuild⟩, ?_⟩
  rw [GroupDefinition.group, hNormal]
  rfl

/-- **The order of the rules makes no difference.** The rules of a definition carry their ids. Put
in another order, with any caches, they have a group exactly if they had one before, and the two
groups give the same verdict on every record, with the same outcomes and values. -/
theorem compile_of_perm (hc : c.Reachable) (hc' : c'.Reachable)
    (hIds : ∀ rule ∈ d.rules, rule.id.isSome = true) (hPerm : rules'.Perm d.rules) :
    ((∃ g, (d.compileWith c).1 = .ok g) ↔
        ∃ g', ({ d with rules := rules' }.compileWith c').1 = .ok g') ∧
      ∀ g g', (d.compileWith c).1 = .ok g →
        ({ d with rules := rules' }.compileWith c').1 = .ok g' →
          ∀ r, g'.evaluate r = g.evaluate r ∧ g'.outcomes r = g.outcomes r ∧
            g'.values r = g.values r := by
  simp only [hc.sound.fst_compileWith, hc'.sound.fst_compileWith]
  have hIds' : ∀ rule ∈ rules', rule.id.isSome = true := by
    intro rule hRule
    exact hIds rule (hPerm.mem_iff.mp hRule)
  refine ⟨⟨?_, ?_⟩, ?_⟩
  · rintro ⟨g, hg⟩
    obtain ⟨-, atoms', -, hg'⟩ := GroupDefinition.exists_compile_of_perm hIds hPerm hg
    exact ⟨_, hg'⟩
  · rintro ⟨g', hg'⟩
    obtain ⟨-, atoms, -, hg⟩ :=
      GroupDefinition.exists_compile_of_perm hIds' hPerm.symm hg'
    exact ⟨_, hg⟩
  · intro g g' hg hg' r
    obtain ⟨hNodup, atoms', hAtoms, hCompile⟩ :=
      GroupDefinition.exists_compile_of_perm hIds hPerm hg
    obtain rfl := Except.ok.inj (hCompile.symm.trans hg')
    have hReport := Group.report_of_perm hNodup hAtoms r
    exact ⟨congrArg Report.verdict hReport, congrArg Report.outcomes hReport,
      congrArg Report.values hReport⟩

/-- With the rules of `reachableGroup` the other way round the records are judged as before. -/
theorem compile_of_perm_reachable :
    ∃ g, ({ reachableGroup.definition Operator.word with
        rules := (reachableGroup.definition Operator.word).rules.reverse }.compileWith .empty).1 =
          .ok g ∧
      ∀ r, g.evaluate r = reachableGroup.evaluate r ∧ g.outcomes r = reachableGroup.outcomes r ∧
        g.values r = reachableGroup.values r := by
  have hCompile : ((reachableGroup.definition Operator.word).compileWith .empty).1 =
      .ok reachableGroup := by
    have hNormal : normalize reachableGroup.logic = reachableGroup.logic := by decide +kernel
    rw [GroupDefinition.compileWith_fst]
    exact Group.compile_definition_of_spelled Operator.ofSpelling?_word hNormal compile_reachable
  have hIds : ∀ rule ∈ (reachableGroup.definition Operator.word).rules,
      rule.id.isSome = true := by decide
  obtain ⟨hSame, hReports⟩ := compile_of_perm .empty .empty hIds (List.reverse_perm _)
  obtain ⟨g, hg⟩ := hSame.mp ⟨_, hCompile⟩
  exact ⟨g, hg, hReports _ _ hCompile hg⟩

/-- **A group is rebuilt from its own parts.** Its atoms with their ids, its logic, name, message,
value and blame mode make up a definition, with operators spelled in words or in symbols. Compiling
this definition, with any cache, gives the group back. -/
theorem compile_definition (hc : c.Reachable) (hc' : c'.Reachable)
    (h : (d.compileWith c).1 = .ok g) :
    ((g.definition Operator.word).compileWith c').1 = .ok g ∧
      ((g.definition Operator.symbol).compileWith c').1 = .ok g := by
  have hNormal := (compiled_of_compileWith hc h).coherent.normal
  rw [hc.sound.fst_compileWith] at h
  rw [hc'.sound.fst_compileWith, hc'.sound.fst_compileWith]
  exact ⟨Group.compile_definition_of_spelled Operator.ofSpelling?_word hNormal h,
    Group.compile_definition_of_spelled Operator.ofSpelling?_symbol hNormal h⟩

/-- The atom that was given the number 5 keeps it. -/
theorem compile_definition_reachable :
    (reachable.compileWith .empty).1 = .ok reachableGroup ∧
      ((reachableGroup.definition Operator.symbol).compileWith
        (TreeCache.empty.getOrBuild "4").2).1 = .ok reachableGroup := by
  have hCompile : (reachable.compileWith .empty).1 = .ok reachableGroup := by
    rw [GroupDefinition.compileWith_fst, compile_reachable]
  exact ⟨hCompile, (compile_definition .empty (.read .empty "4") hCompile).2⟩

end RuleVerdict
