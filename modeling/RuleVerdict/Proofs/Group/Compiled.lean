import RuleVerdict.Group.Compile
import RuleVerdict.Proofs.Logic.Meaning

/-!
# Compiled groups

A group that was compiled carries the blame mode and the logic of its definition, its atoms have
distinct ids, every atom of its logic is one of its own, and its tree is read from its logic. This
holds with any cache that compiling and reading can leave behind, because such a cache only keeps
trees under the texts they are read from.

* `TreeCache.compileWith_cases`: what compiling does to a cache.
* `TreeCache.Reachable.sound`: what a reachable cache keeps is what would be read.
* `GroupDefinition.compile_eq_ok_iff`: what the group of a definition is made of.
* `compiled_of_compileWith`: what is known of a compiled group.
* `Compiled.exists_tree`: the tree of a group says what its logic says.
-/

namespace RuleVerdict

open Logic

/-! ## Caches -/

namespace TreeCache

/-- The caches that reading trees and compiling groups can leave behind. -/
inductive Reachable : TreeCache → Prop
  | empty : Reachable empty
  | read {c : TreeCache} (h : c.Reachable) (logic : String) : Reachable (c.getOrBuild logic).2
  | compiled {c : TreeCache} (h : c.Reachable) (d : GroupDefinition) :
      Reachable (d.compileWith c).2

/-- Every tree is the one that is read from the text it is kept under. -/
def Sound (c : TreeCache) : Prop :=
  ∀ logic t, c.get? logic = some t → Tree.build logic = .ok t

theorem build_of_buildTree {logic : String} {t : Tree} (h : buildTree logic = .ok t) :
    Tree.build logic = .ok t := by
  unfold buildTree at h
  split at h
  · next t' ht =>
    cases h
    exact ht
  · cases h

theorem sound_empty : Sound empty := by
  intro logic t h
  simp [get?, empty] at h

/-- Reading keeps a cache sound and gives the tree of the text. -/
theorem Sound.getOrBuild {c : TreeCache} (hc : c.Sound) (logic : String) :
    (c.getOrBuild logic).2.Sound ∧
      ∀ t, (c.getOrBuild logic).1 = .ok t → Tree.build logic = .ok t := by
  unfold TreeCache.getOrBuild
  split
  · next t ht =>
    refine ⟨hc, fun t' h => ?_⟩
    cases h
    exact hc logic t ht
  · split
    · next t ht =>
      refine ⟨fun other t' h => ?_, fun t' h => ?_⟩
      · rw [get?, Std.HashMap.getElem?_insert] at h
        split at h
        · next heq =>
          cases h
          rw [← eq_of_beq heq]
          exact build_of_buildTree ht
        · exact hc other t' h
      · cases h
        exact build_of_buildTree ht
    · refine ⟨hc, fun t h => ?_⟩
      cases h

/-- Compiling fails, or has no tree to read, or reads one; only then the cache may change. -/
theorem compileWith_cases (d : GroupDefinition) (c : TreeCache) :
    (∃ e, d.compileWith c = (.error e, c)) ∨
      (∃ g, d.check = .ok g ∧ g.logic = "" ∧ d.compileWith c = (.ok g, c)) ∨
      ∃ g t, d.check = .ok g ∧ g.logic ≠ "" ∧ (c.getOrBuild g.logic).1 = .ok t ∧
        d.compileWith c = (.ok { g with tree := some t }, (c.getOrBuild g.logic).2) := by
  unfold GroupDefinition.compileWith
  cases hcheck : d.check with
  | error e => exact .inl ⟨e, rfl⟩
  | ok g =>
    dsimp only
    split
    · next hblank => exact .inr (.inl ⟨g, rfl, hblank, rfl⟩)
    · next hne =>
      split
      · next e c' he =>
        have hc : (c.getOrBuild g.logic).2 = c := getOrBuild_of_error (congrArg Prod.fst he)
        rw [he] at hc
        exact .inl ⟨e, congrArg (Prod.mk (Except.error e)) hc⟩
      · next t c' ht => exact .inr (.inr ⟨g, t, rfl, hne, by rw [ht], by rw [ht]⟩)

theorem Reachable.sound {c : TreeCache} (h : c.Reachable) : c.Sound := by
  induction h with
  | empty => exact sound_empty
  | read h logic ih => exact (ih.getOrBuild logic).1
  | @compiled c h d ih =>
    rcases compileWith_cases d c with ⟨e, he⟩ | ⟨g, -, -, hg⟩ | ⟨g, t, -, -, -, hg⟩
    · rwa [he]
    · rwa [hg]
    · rw [hg]
      exact (ih.getOrBuild g.logic).1

/-- A sound cache gives what is read without one. -/
theorem Sound.fst_getOrBuild {c : TreeCache} (hc : c.Sound) (logic : String) :
    (c.getOrBuild logic).1 = buildTree logic := by
  unfold TreeCache.getOrBuild
  split
  · next t ht => rw [buildTree, hc logic t ht]
  · split
    · next t ht => exact ht.symm
    · next e he => exact he.symm

/-- A definition is compiled with a sound cache as it is without one. -/
theorem Sound.fst_compileWith {c : TreeCache} (hc : c.Sound) (d : GroupDefinition) :
    (d.compileWith c).1 = d.compile := by
  unfold GroupDefinition.compileWith GroupDefinition.compile
  split
  · rfl
  · next g hg =>
    split
    · rfl
    · rw [← hc.fst_getOrBuild g.logic]
      cases c.getOrBuild g.logic with
      | mk result c => cases result <;> rfl

end TreeCache

/-! ## Ids and atoms -/

/-- Assigned ids are distinct, new, and as many as there are definitions. -/
theorem assignFrom_spec {next : AtomId} {seen ids : List AtomId} {ds : List AtomDefinition}
    (h : assignFrom next seen ds = .ok ids) :
    ids.length = ds.length ∧ ids.Nodup ∧ ∀ id ∈ ids, id ∉ seen := by
  induction ds generalizing next seen ids with
  | nil =>
    cases h
    exact ⟨rfl, List.nodup_nil, nofun⟩
  | cons d ds ih =>
    simp only [assignFrom] at h
    split at h
    · cases h
    · next hseen =>
      obtain ⟨rest, hrest, rfl⟩ := map_eq_ok h
      obtain ⟨hlen, hnodup, hnew⟩ := ih hrest
      refine ⟨?_, List.nodup_cons.mpr ⟨fun hid => hnew _ hid List.mem_cons_self, hnodup⟩, ?_⟩
      · rw [List.length_cons, List.length_cons, hlen]
      · intro id hid
        rcases List.mem_cons.mp hid with rfl | hid
        · simpa using hseen
        · exact fun hs => hnew id hid (.tail _ hs)

theorem id_of_resolve {d : AtomDefinition} {id : AtomId} {a : Atom} (h : d.resolve id = .ok a) :
    a.id = id := by
  unfold AtomDefinition.resolve at h
  split at h
  · cases h
    rfl
  · cases h

theorem map_id_of_resolveAll {ds : List AtomDefinition} {ids : List AtomId} {atoms : List Atom}
    (hlen : ids.length = ds.length) (h : resolveAll ds ids = .ok atoms) :
    atoms.map Atom.id = ids := by
  induction ds generalizing ids atoms with
  | nil =>
    cases List.length_eq_zero_iff.mp hlen
    cases h
    rfl
  | cons d ds ih =>
    cases ids with
    | nil => cases hlen
    | cons id ids =>
      rw [resolveAll] at h
      split at h
      · cases h
      · next a ha =>
        obtain ⟨rest, hrest, rfl⟩ := map_eq_ok h
        rw [List.map_cons, id_of_resolve ha, ih (Nat.succ.inj hlen) hrest]

/-! ## Logic -/

theorem mem_of_checkReferences {ids : List AtomId} {ts : List Token}
    (h : checkReferences ids ts = .ok ()) {id : AtomId} (hid : .id id ∈ ts) : id ∈ ids := by
  induction ts with
  | nil => cases hid
  | cons t ts ih =>
    rw [checkReferences] at h
    split at h
    · next ht =>
      rcases List.mem_cons.mp hid with rfl | hid
      · cases ht
      · exact ih h hid
    · next n ht =>
      split at h
      · next hn =>
        rcases List.mem_cons.mp hid with rfl | hid
        · cases ht
          simpa using hn
        · exact ih h hid
      · cases h

/-- A checked logic is tokenized, well shaped, and refers to the given ids only. -/
theorem tokens_of_checkLogic {ids : List AtomId} {logic : String}
    (h : checkLogic ids logic = .ok ()) :
    ∃ ts, tokenize logic = .ok ts ∧ checkShape ts = .ok () ∧ ∀ id, .id id ∈ ts → id ∈ ids := by
  unfold checkLogic at h
  split at h
  · cases h
  · next ts hts =>
    split at h
    · cases h
    · next hshape => exact ⟨ts, hts, hshape, fun id hid => mem_of_checkReferences h hid⟩

/-! ## Compiling -/

namespace GroupDefinition

/-- The group of the definition with the given atoms and tree. -/
def group (d : GroupDefinition) (atoms : List Atom) (tree : Option Tree) : Group :=
  ⟨d.name, d.message.getD "", d.value, d.blame, atoms, normalize d.logic, tree⟩

/-- The tree that goes with a logic in normal layout: none if the logic is blank, and else the one
that it is read into once it has passed its checks. -/
def TreeFor (ids : List AtomId) (logic : String) : Option Tree → Prop
  | none => logic = ""
  | some t => logic ≠ "" ∧ checkLogic ids logic = .ok () ∧ Tree.build logic = .ok t

variable {d : GroupDefinition} {g : Group}

theorem check_eq_ok_iff :
    d.check = .ok g ↔
      ∃ ids atoms, assignIds d.rules = .ok ids ∧ resolveAll d.rules ids = .ok atoms ∧
        (normalize d.logic ≠ "" → checkLogic ids (normalize d.logic) = .ok ()) ∧
        g = d.group atoms none := by
  constructor
  · intro h
    unfold check at h
    split at h
    · cases h
    · next ids hIds =>
      split at h
      · cases h
      · next atoms hAtoms =>
        dsimp only at h
        split at h
        · next hBlank =>
          exact ⟨ids, atoms, hIds, hAtoms, absurd hBlank, (Except.ok.inj h).symm⟩
        · split at h
          · cases h
          · next hLogic =>
            exact ⟨ids, atoms, hIds, hAtoms, fun _ => hLogic, (Except.ok.inj h).symm⟩
  · rintro ⟨ids, atoms, hIds, hAtoms, hLogic, rfl⟩
    by_cases hBlank : normalize d.logic = ""
    · simp [check, hIds, hAtoms, hBlank, group]
    · simp [check, hIds, hAtoms, hBlank, hLogic hBlank, group]

/-- A definition has a group exactly if ids are given out, the operators are known and there is a
tree for the logic, and then the group is made of these. -/
theorem compile_eq_ok_iff :
    d.compile = .ok g ↔
      ∃ ids atoms tree, assignIds d.rules = .ok ids ∧ resolveAll d.rules ids = .ok atoms ∧
        TreeFor ids (normalize d.logic) tree ∧ g = d.group atoms tree := by
  constructor
  · intro h
    unfold compile at h
    split at h
    · cases h
    · next g' hCheck =>
      obtain ⟨ids, atoms, hIds, hAtoms, hLogic, rfl⟩ := check_eq_ok_iff.mp hCheck
      split at h
      · next hBlank =>
        exact ⟨ids, atoms, none, hIds, hAtoms, hBlank, (Except.ok.inj h).symm⟩
      · next hNe =>
        split at h
        · cases h
        · next t ht =>
          have hBuild := TreeCache.build_of_buildTree ht
          exact ⟨ids, atoms, some t, hIds, hAtoms, ⟨hNe, hLogic hNe, hBuild⟩,
            (Except.ok.inj h).symm⟩
  · rintro ⟨ids, atoms, tree, hIds, hAtoms, hTree, rfl⟩
    cases tree with
    | none =>
      have hCheck := check_eq_ok_iff.mpr ⟨ids, atoms, hIds, hAtoms, absurd hTree, rfl⟩
      rw [compile, hCheck]
      exact if_pos hTree
    | some t =>
      obtain ⟨hNe, hLogic, hBuild⟩ := hTree
      have hCheck := check_eq_ok_iff.mpr ⟨ids, atoms, hIds, hAtoms, fun _ => hLogic, rfl⟩
      have hRead : buildTree (d.group atoms none).logic = .ok t := by
        rw [group, buildTree, hBuild]
      rw [compile, hCheck]
      simp only [hRead]
      exact if_neg hNe

theorem logic_of_check (h : d.check = .ok g) : g.logic = normalize d.logic := by
  obtain ⟨_, _, -, -, -, rfl⟩ := check_eq_ok_iff.mp h
  rfl

end GroupDefinition

/-! ## Groups -/

/-- What is known of a group that was compiled from a definition. -/
structure Compiled (d : GroupDefinition) (g : Group) : Prop where
  blame : g.blame = d.blame
  logic : g.logic = normalize d.logic
  nodup : (g.atoms.map Atom.id).Nodup
  tokens : g.logic ≠ "" → ∃ ts, tokenize g.logic = .ok ts ∧ checkShape ts = .ok () ∧
    ∀ id, .id id ∈ ts → ∃ a ∈ g.atoms, a.id = id
  noTree : g.logic = "" → g.tree = none
  tree : g.logic ≠ "" → ∃ t, Tree.build g.logic = .ok t ∧ g.tree = some t

/-- What is known of a group that was compiled with a reachable cache. -/
theorem compiled_of_compileWith {d : GroupDefinition} {c : TreeCache} {g : Group}
    (hc : c.Reachable) (h : (d.compileWith c).1 = .ok g) : Compiled d g := by
  rw [hc.sound.fst_compileWith] at h
  obtain ⟨ids, atoms, tree, hids, hatoms, htree, rfl⟩ := GroupDefinition.compile_eq_ok_iff.mp h
  obtain ⟨hlen, hnodup, -⟩ := assignFrom_spec hids
  obtain rfl := map_id_of_resolveAll hlen hatoms
  cases tree with
  | none => exact ⟨rfl, rfl, hnodup, fun hne => absurd htree hne, fun _ => rfl,
      fun hne => absurd htree hne⟩
  | some t =>
    obtain ⟨hne, hlogic, hbuild⟩ := htree
    obtain ⟨ts, hts, hshape, hmem⟩ := tokens_of_checkLogic hlogic
    have htokens : ∀ id, .id id ∈ ts → ∃ a ∈ atoms, a.id = id :=
      fun id hid => List.mem_map.mp (hmem id hid)
    exact ⟨rfl, rfl, hnodup, fun _ => ⟨ts, hts, hshape, htokens⟩, fun hblank => absurd hblank hne,
      fun _ => ⟨t, hbuild, rfl⟩⟩

theorem ne_empty_of_build {s : String} {f : Formula} (h : build (words s) = .ok f) : s ≠ "" := by
  rintro rfl
  have hempty : build (words "") = .error .emptyOperand := by rw [build_eq]; rfl
  cases hempty.symm.trans h

/-- The tree of a group has the formula of the expression that its logic spells. -/
theorem Compiled.exists_spelling {d : GroupDefinition} {g : Group} (hg : Compiled d g)
    {e : OrChain AtomId} (he : tokenize (normalize d.logic) = .ok e.tokens) :
    ∃ (x : OrChain Numeral) (t : Tree), x.map Numeral.id = e ∧ g.tree = some t ∧
      t.root = x.formula := by
  rw [← hg.logic] at he
  obtain ⟨x, hwords, rfl⟩ := e.exists_words_eq _ (map_read?_words_of_tokenize he)
  have hbuild := x.build_words
  rw [hwords] at hbuild
  obtain ⟨t, ht, hgt⟩ := hg.tree (ne_empty_of_build hbuild)
  obtain ⟨-, f, hf, rfl⟩ := Tree.build_eq_ok_iff.mp ht
  exact ⟨x, _, rfl, hgt, Except.ok.inj (hf.symm.trans hbuild)⟩

/-- The tree of a group says what the expression says that its logic is. -/
theorem Compiled.exists_tree {d : GroupDefinition} {g : Group} (hg : Compiled d g)
    {e : OrChain AtomId} (he : tokenize (normalize d.logic) = .ok e.tokens) :
    ∃ t, g.tree = some t ∧ t.root.Proper ∧ (∀ truth, t.root.value truth = e.value truth) ∧
      (∀ sign, t.root.charges sign = e.literals sign) ∧
      t.root.leaves.map Leaf.id = e.tokens.filterMap Token.id? := by
  obtain ⟨x, t, rfl, ht, hroot⟩ := hg.exists_spelling he
  refine ⟨t, ht, ?_⟩
  rw [hroot]
  exact ⟨x.proper_formula, fun truth => x.value_formula truth, fun sign => x.charges_formula sign,
    x.map_id_leavesAt .root⟩

/-- Every atom of the expression is one of the group. -/
theorem Compiled.exists_atom {d : GroupDefinition} {g : Group} (hg : Compiled d g)
    {e : OrChain AtomId} (he : tokenize (normalize d.logic) = .ok e.tokens) {id : AtomId}
    (hid : .id id ∈ e.tokens) : ∃ a ∈ g.atoms, a.id = id := by
  rw [← hg.logic] at he
  obtain ⟨f, hf, -⟩ := exists_formula_of_read (map_read?_words_of_tokenize he)
  obtain ⟨ts, hts, -, hmem⟩ := hg.tokens (ne_empty_of_build hf)
  obtain rfl : e.tokens = ts := Except.ok.inj (he.symm.trans hts)
  exact hmem id hid

end RuleVerdict
