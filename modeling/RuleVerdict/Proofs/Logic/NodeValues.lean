import RuleVerdict.Logic.Walk

/-!
# The nodes of a tree give its value

In the list of nodes each formula takes up a stretch that begins with its own node (`Laid`). One
backward pass over the nodes therefore finds the value of each formula at the position where it
begins, and the visits that start at a node reach the same atoms as a recursion over its formula.

* `getElem?_nodeValues`: the value found for a node is that of its formula.
* `visits_of_laid`: visiting a node comes to what lies below it, and then goes on with the stack.
* `Tree.values_root`, `Tree.divergingFaults_eq`: the same for a whole tree.
-/

namespace RuleVerdict.Logic

open Formula

/-! ## Where the nodes of a formula are -/

/-- The nodes of the formula, with the mark `m`, are found from position `p` on. -/
def Laid (nodes : Array Node) (p : Nat) (m : Mark) (f : Formula) : Prop :=
  f.nodesAt p m <+: nodes.toList.drop p

/-- The nodes of the formulas are found one after the other from a position on, and they all
should be worth the same. -/
def LaidAll (nodes : Array Node) (should : Bool) : Nat → List Formula → Prop
  | _, [] => True
  | p, f :: fs =>
    (∃ m : Mark, m.should = should ∧ Laid nodes p m f) ∧ LaidAll nodes should (p + f.size) fs

theorem getElem?_of_prefixed_cons {α : Type} {l r : List α} {a : α} {p : Nat}
    (h : a :: r <+: l.drop p) : l[p]? = some a ∧ r <+: l.drop (p + 1) := by
  obtain ⟨t, ht⟩ := h
  constructor
  · have h0 : (l.drop p)[0]? = some a := by rw [← ht]; rfl
    simpa using h0
  · refine ⟨t, ?_⟩
    rw [← List.drop_drop, ← ht]
    rfl

theorem prefixed_of_prefixed_append {α : Type} {l r s : List α} {p : Nat}
    (h : r ++ s <+: l.drop p) : r <+: l.drop p ∧ s <+: l.drop (p + r.length) := by
  obtain ⟨t, ht⟩ := h
  rw [List.append_assoc] at ht
  refine ⟨⟨s ++ t, ht⟩, t, ?_⟩
  rw [← List.drop_drop, ← ht, List.drop_left]

theorem laidAll_of_each {nodes : Array Node} {m : Mark} {fs : List Formula} {p : Nat}
    (h : nodesEach p m fs <+: nodes.toList.drop p) : LaidAll nodes m.should p fs := by
  induction fs generalizing p with
  | nil => trivial
  | cons f fs ih =>
    obtain ⟨hf, hfs⟩ := prefixed_of_prefixed_append h
    rw [length_nodesAt] at hfs
    exact ⟨⟨m, rfl, hf⟩, ih hfs⟩

theorem laidAll_of_first {nodes : Array Node} {m : Mark} {fs : List Formula} {p : Nat}
    (h : nodesFirst p m fs <+: nodes.toList.drop p) : LaidAll nodes m.should p fs := by
  cases fs with
  | nil => trivial
  | cons f fs =>
    obtain ⟨hf, hfs⟩ := prefixed_of_prefixed_append h
    rw [length_nodesAt] at hfs
    have hrest : LaidAll nodes m.excuse.should (p + f.size) fs := laidAll_of_each hfs
    exact ⟨⟨m, rfl, hf⟩, hrest⟩

variable {nodes : Array Node} {p : Nat} {m : Mark} {text : String}

theorem laid_atom {id : AtomId} (h : Laid nodes p m (.atom id)) :
    nodes[p]? = some ⟨.atom id, id.text, [], m⟩ := by
  simpa using (getElem?_of_prefixed_cons h).1

theorem laid_negation {f : Formula} (h : Laid nodes p m (.negation text f)) :
    nodes[p]? = some ⟨.negation, text, [p + 1], m⟩ ∧ Laid nodes (p + 1) m.negate f := by
  obtain ⟨hn, hf⟩ := getElem?_of_prefixed_cons h
  exact ⟨by simpa using hn, hf⟩

theorem laid_conjunction {fs : List Formula} (h : Laid nodes p m (.conjunction text fs)) :
    nodes[p]? = some ⟨.conjunction, text, positions (p + 1) fs, m⟩ ∧
      LaidAll nodes m.should (p + 1) fs := by
  obtain ⟨hn, hfs⟩ := getElem?_of_prefixed_cons h
  exact ⟨by simpa using hn, laidAll_of_each hfs⟩

theorem laid_disjunction {fs : List Formula} (h : Laid nodes p m (.disjunction text fs)) :
    nodes[p]? = some ⟨.disjunction, text, positions (p + 1) fs, m⟩ ∧
      LaidAll nodes m.should (p + 1) fs := by
  obtain ⟨hn, hfs⟩ := getElem?_of_prefixed_cons h
  exact ⟨by simpa using hn, laidAll_of_first hfs⟩

/-- A formula begins with a node of its own. -/
theorem lt_size_of_laid {f : Formula} (h : Laid nodes p m f) : p < nodes.size := by
  have hn : ∃ n, nodes[p]? = some n := by
    cases f with
    | atom id => exact ⟨_, laid_atom h⟩
    | negation text f => exact ⟨_, (laid_negation h).1⟩
    | conjunction text fs => exact ⟨_, (laid_conjunction h).1⟩
    | disjunction text fs => exact ⟨_, (laid_disjunction h).1⟩
  obtain ⟨n, hn⟩ := hn
  exact (Array.getElem?_eq_some_iff.mp hn).1

/-! ## Values -/

/-- From position `p` on, the values are those of the formulas that begin there. -/
def KnownFrom (truth : AtomId → Bool) (nodes : Array Node) (p : Nat) (values : Array Bool) :
    Prop :=
  ∀ i m f, p ≤ i → Laid nodes i m f → values[i]? = some (f.value truth)

variable {truth : AtomId → Bool} {values : Array Bool} {should : Bool}

theorem all_positions {q : Nat} (hk : KnownFrom truth nodes p values) (hq : p ≤ q)
    {fs : List Formula} (h : LaidAll nodes should q fs) :
    (positions q fs).all (fun c => values[c]?.getD false) = valueAll truth fs := by
  induction fs generalizing q with
  | nil => rfl
  | cons f fs ih =>
    obtain ⟨⟨m, -, hf⟩, hfs⟩ := h
    rw [positions, List.all_cons, hk q m f hq hf, ih (by omega) hfs]
    rfl

theorem any_positions {q : Nat} (hk : KnownFrom truth nodes p values) (hq : p ≤ q)
    {fs : List Formula} (h : LaidAll nodes should q fs) :
    (positions q fs).any (fun c => values[c]?.getD false) = valueAny truth fs := by
  induction fs generalizing q with
  | nil => rfl
  | cons f fs ih =>
    obtain ⟨⟨m, -, hf⟩, hfs⟩ := h
    rw [positions, List.any_cons, hk q m f hq hf, ih (by omega) hfs]
    rfl

/-- If the values behind a node are known, so is its own. -/
theorem value_of_knownFrom (hk : KnownFrom truth nodes (p + 1) values) {f : Formula}
    (h : Laid nodes p m f) : ∃ n, nodes[p]? = some n ∧ n.value truth values = f.value truth := by
  cases f with
  | atom id => exact ⟨_, laid_atom h, rfl⟩
  | negation text f =>
    obtain ⟨hn, hf⟩ := laid_negation h
    refine ⟨_, hn, ?_⟩
    simp [Node.value, hk _ _ f (Nat.le_refl _) hf, Formula.value]
  | conjunction text fs =>
    obtain ⟨hn, hfs⟩ := laid_conjunction h
    exact ⟨_, hn, all_positions hk (Nat.le_refl _) hfs⟩
  | disjunction text fs =>
    obtain ⟨hn, hfs⟩ := laid_disjunction h
    exact ⟨_, hn, any_positions hk (Nat.le_refl _) hfs⟩

/-- The backward pass keeps what is known and adds the values of the nodes in front. -/
theorem knownFrom_fillValues (k : Nat) (hsize : values.size = nodes.size)
    (hk : KnownFrom truth nodes k values) :
    KnownFrom truth nodes 0 (fillValues truth nodes k values) := by
  induction k generalizing values with
  | zero => exact hk
  | succ k ih =>
    unfold fillValues
    split
    · next hnone =>
      refine ih hsize fun i m f hi hf => hk i m f ?_ hf
      -- No formula begins where there is no node.
      have hne : i ≠ k := by
        rintro rfl
        have := lt_size_of_laid hf
        simp at hnone
        omega
      omega
    · next n hn =>
      refine ih (by rw [Array.size_setIfInBounds, hsize]) fun i m f hi hf => ?_
      by_cases hik : k = i
      · subst hik
        obtain ⟨n', hn', hv⟩ := value_of_knownFrom hk hf
        obtain rfl : n = n' := Option.some.inj (hn.symm.trans hn')
        have := lt_size_of_laid hf
        rw [Array.getElem?_setIfInBounds_self_of_lt (by omega), hv]
      · rw [Array.getElem?_setIfInBounds_ne hik]
        exact hk i m f (by omega) hf

/-- The value found for a node is that of the formula that begins there. -/
theorem getElem?_nodeValues {f : Formula} (h : Laid nodes p m f) :
    (nodeValues truth nodes)[p]? = some (f.value truth) := by
  refine knownFrom_fillValues nodes.size (by simp) (fun i m f hi hf => ?_) p m f (Nat.zero_le p) h
  have := lt_size_of_laid hf
  omega

/-! ## Visits -/

theorem visit_nil (fuel : Nat) (found : List AtomId) :
    visit nodes values fuel [] found = found := by
  cases fuel <;> rfl

/-- Within `bound` visits the stack comes down below `top`, and `ids` have been found. -/
def Visits (nodes : Array Node) (values : Array Bool) (top : List Nat) (ids : List AtomId)
    (bound : Nat) : Prop :=
  ∃ k ≤ bound, ∀ fuel stack found,
    visit nodes values (k + fuel) (top ++ stack) found =
      visit nodes values fuel stack (ids ++ found)

theorem visits_nil : Visits nodes values [] [] 0 := by
  refine ⟨0, Nat.le_refl 0, fun fuel stack found => ?_⟩
  rw [Nat.zero_add]
  rfl

theorem Visits.append {top₁ top₂ : List Nat} {ids₁ ids₂ : List AtomId} {b₁ b₂ : Nat}
    (h₁ : Visits nodes values top₁ ids₁ b₁) (h₂ : Visits nodes values top₂ ids₂ b₂) :
    Visits nodes values (top₁ ++ top₂) (ids₂ ++ ids₁) (b₂ + b₁) := by
  obtain ⟨k₁, hk₁, hv₁⟩ := h₁
  obtain ⟨k₂, hk₂, hv₂⟩ := h₂
  refine ⟨k₁ + k₂, by omega, fun fuel stack found => ?_⟩
  rw [List.append_assoc, Nat.add_assoc, hv₁, hv₂, List.append_assoc]

/-- A node that is what it should be is passed over; otherwise an atom is found, or the children
are visited, the last one first. -/
theorem visits_node {n : Node} (hn : nodes[p]? = some n) {b : Bool} (hv : values[p]? = some b)
    {ids : List AtomId} {bound : Nat}
    (h : match n.kind with
      | .atom id => ids = [id]
      | _ => Visits nodes values n.children.reverse ids bound) :
    Visits nodes values [p] (if b = n.mark.should then [] else ids) (1 + bound) := by
  by_cases hb : b = n.mark.should
  · refine ⟨1, by omega, fun fuel stack found => ?_⟩
    simp [Nat.add_comm 1, visit, hn, hv, hb]
  · have hne : ¬ values[p]? = some n.mark.should := by simpa [hv] using hb
    rw [if_neg hb]
    cases hk : n.kind with
    | atom id =>
      rw [hk] at h
      subst h
      refine ⟨1, by omega, fun fuel stack found => ?_⟩
      simp [Nat.add_comm 1, visit, hn, hne, hk]
    | _ =>
      rw [hk] at h
      obtain ⟨k, hle, hvisit⟩ := h
      refine ⟨1 + k, by omega, fun fuel stack found => ?_⟩
      rw [Nat.add_assoc, Nat.add_comm 1, List.singleton_append, visit, hn]
      simp only [if_neg hne, hk]
      exact hvisit fuel stack found

mutual

/-- Visiting a node comes to what lies below it. -/
theorem visits_of_laid (hk : KnownFrom truth nodes 0 values) : (f : Formula) →
    ∀ {p : Nat} {m : Mark}, Laid nodes p m f →
      Visits nodes values [p] (f.divergingAt truth m.should) f.size
  | .atom id, p, m, h => by
    have hnode : Visits nodes values [p] (if truth id = m.should then [] else [id]) (1 + 0) :=
      visits_node (laid_atom h) (hk p m _ (Nat.zero_le p) h) rfl
    exact hnode
  | .negation text f, p, m, h => by
    obtain ⟨hn, hf⟩ := laid_negation h
    exact visits_node hn (hk p m _ (Nat.zero_le p) h) (visits_of_laid hk f hf)
  | .conjunction text fs, p, m, h => by
    obtain ⟨hn, hfs⟩ := laid_conjunction h
    exact visits_node hn (hk p m _ (Nat.zero_le p) h) (visits_of_laidAll hk fs hfs)
  | .disjunction text fs, p, m, h => by
    obtain ⟨hn, hfs⟩ := laid_disjunction h
    exact visits_node hn (hk p m _ (Nat.zero_le p) h) (visits_of_laidAll hk fs hfs)

/-- Visiting some nodes that stand side by side comes to what lies below them. -/
theorem visits_of_laidAll (hk : KnownFrom truth nodes 0 values) : (fs : List Formula) →
    ∀ {p : Nat} {should : Bool}, LaidAll nodes should p fs →
      Visits nodes values (positions p fs).reverse (divergingEach truth should fs) (sizeList fs)
  | [], _, _, _ => visits_nil
  | f :: fs, p, should, h => by
    obtain ⟨⟨m, rfl, hf⟩, hfs⟩ := h
    rw [positions, List.reverse_cons]
    exact (visits_of_laidAll hk fs hfs).append (visits_of_laid hk f hf)

end

namespace Tree

theorem laid_root (t : Tree) : Laid t.nodes 0 .root t.root := by
  rw [Laid, t.nodes_eq]
  exact List.prefix_rfl

theorem size_nodes (t : Tree) : t.nodes.size = t.root.size := by
  rw [t.nodes_eq, List.size_toArray, length_nodes]

/-- The root has the value of the formula. -/
theorem values_root (truth : AtomId → Bool) (t : Tree) :
    (t.values truth)[0]? = some (t.root.value truth) := getElem?_nodeValues t.laid_root

/-- The atoms reached on the nodes are those reached on the formula. -/
theorem divergingFaults_eq (truth : AtomId → Bool) (t : Tree) :
    t.divergingFaults truth = t.root.divergingFaults truth := by
  have hknown : KnownFrom truth t.nodes 0 (t.values truth) :=
    fun i m f _ hf => getElem?_nodeValues hf
  obtain ⟨k, hk, hvisit⟩ := visits_of_laid hknown t.root t.laid_root
  obtain ⟨fuel, hfuel⟩ := Nat.exists_eq_add_of_le (t.size_nodes ▸ hk)
  have hroot := hvisit fuel [] []
  rw [visit_nil, List.append_nil, List.append_nil] at hroot
  rw [divergingFaults, hfuel]
  exact hroot

end Tree

end RuleVerdict.Logic
