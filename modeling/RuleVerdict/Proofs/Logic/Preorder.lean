import RuleVerdict.Proofs.Logic.Depth
import RuleVerdict.Proofs.Logic.Meaning
import RuleVerdict.Proofs.Logic.Placement
import Mathlib.Data.Set.Card

/-!
# The nodes of a tree in preorder

Nothing but children's positions is entered into the array of nodes, and still it is a tree in
preorder: every node but the first is a child of one node, what is below a node stands directly
behind it, and the marks of a node can be told from the nodes above it alone.

* `Arena.Preordered`: what it means to be such an array.
* `Laid.isAbove_iff`: what is below a node are the nodes of its formula.
* `Holds.unique_parent`: no node is a child of two nodes.
* `arena_in_preorder`: what is built is in preorder, and is the derivation of the words.
-/

namespace RuleVerdict.Logic

open Formula

/-! ## Relations between nodes -/

/-- The node at position `c` is a child of the node at position `p`. -/
def IsChild (nodes : Array Node) (p c : Nat) : Prop := ∃ n, nodes[p]? = some n ∧ c ∈ n.children

/-- The node at position `p` is a proper ancestor of the node at position `i`. -/
def IsAbove (nodes : Array Node) (p i : Nat) : Prop := Relation.TransGen (IsChild nodes) p i

/-- The negations above a node. -/
def negationsAbove (nodes : Array Node) (i : Nat) : Set Nat :=
  { p | IsAbove nodes p i ∧ nodes[p]?.map Node.kind = some .negation }

/-- The node is, or lies below, an operand of an `or` that is not the first one. -/
def IsExcused (nodes : Array Node) (i : Nat) : Prop :=
  ∃ (p : Nat) (n : Node) (k c : Nat), nodes[p]? = some n ∧ n.kind = .disjunction ∧
    n.children[k]? = some c ∧ 0 < k ∧ (c = i ∨ IsAbove nodes c i)

/-- Whether a node of the kind may have that many children. -/
def NodeKind.Takes : NodeKind → Nat → Prop
  | .atom _, count => count = 0
  | .negation, count => count = 1
  | _, count => 2 ≤ count

/-- The nodes are those of one tree in preorder, with their marks and the list of its leaves. -/
structure Arena.Preordered (a : Arena) : Prop where
  nonempty : 0 < a.nodes.size
  root : ∀ p, ¬IsChild a.nodes p 0
  below_root : ∀ i, IsAbove a.nodes 0 i ↔ 0 < i ∧ i < a.nodes.size
  parent : ∀ i, 0 < i → i < a.nodes.size → ∃! p, IsChild a.nodes p i
  increasing : ∀ (p : Nat) (n : Node), a.nodes[p]? = some n →
    n.children.Pairwise (· < ·)
  behind : ∀ p c, IsChild a.nodes p c → p < c ∧ c < a.nodes.size
  contiguous : ∀ p, p < a.nodes.size →
    ∃ e, p < e ∧ e ≤ a.nodes.size ∧ ∀ i, IsAbove a.nodes p i ↔ p < i ∧ i < e
  arity : ∀ (p : Nat) (n : Node), a.nodes[p]? = some n → n.kind.Takes n.children.length
  leaves : a.leaves.toList = (List.range a.nodes.size).filter fun i => a.nodes[i]?.any Node.isLeaf
  should : ∀ (i : Nat) (n : Node), a.nodes[i]? = some n →
    (n.mark.should = true ↔ (negationsAbove a.nodes i).ncard % 2 = 0)
  blamed : ∀ (i : Nat) (n : Node), a.nodes[i]? = some n →
    (n.mark.blamed = true ↔ ¬IsExcused a.nodes i)

/-! ## Below a formula -/

variable {nodes : Array Node} {p i : Nat} {m : Mark} {f : Formula}

theorem Laid.isChild_iff (h : Laid nodes p m f) {c : Nat} :
    IsChild nodes p c ↔
      ∃ k g, f.operands[k]? = some g ∧ c = p + 1 + sizeList (f.operands.take k) := by
  constructor
  · rintro ⟨n, hn, hc⟩
    cases Option.some.inj (hn.symm.trans h.node)
    obtain ⟨k, g, hg, -, hPosition⟩ := exists_of_mem_positions hc
    exact ⟨k, g, hg, hPosition⟩
  · rintro ⟨k, g, hg, rfl⟩
    exact ⟨_, h.node, List.mem_of_getElem? (getElem?_positions hg)⟩

/-- What is below a node are the other nodes of its formula. -/
theorem Laid.isAbove_iff (h : Laid nodes p m f) :
    IsAbove nodes p i ↔ p < i ∧ i < p + f.size := by
  constructor
  · intro hAbove
    induction hAbove using Relation.TransGen.head_induction_on generalizing m f with
    | single hChild =>
      obtain ⟨k, g, hg, rfl⟩ := h.isChild_iff.mp hChild
      have hBound := Laid.operand_le hg
      have hPos := g.size_pos
      omega
    | head hChild _ ih =>
      obtain ⟨k, g, hg, rfl⟩ := h.isChild_iff.mp hChild
      have hBelow := ih (h.operand hg)
      have hBound := Laid.operand_le hg
      omega
  · rintro ⟨hLow, hHigh⟩
    induction hSize : f.size using Nat.strongRecOn generalizing p m f with
    | _ n ih =>
    have hRoot := f.size_eq
    have hInside : i - (p + 1) < sizeList f.operands := by omega
    obtain ⟨k, g, hg, hFrom, hTo⟩ := exists_operand_at hInside
    have hBound := Laid.operand_le hg
    have hChild := h.isChild_iff.mpr ⟨k, g, hg, rfl⟩
    by_cases hFirst : i = p + 1 + sizeList (f.operands.take k)
    · rw [hFirst]
      exact .single hChild
    · exact .head hChild (ih g.size (by omega) (h.operand hg) (by omega) (by omega) rfl)

/-- A child does not stand inside what is below another child. -/
theorem Laid.not_inside (h : Laid nodes p m f) (hChild : IsChild nodes p i) {k : Nat} {g : Formula}
    (hg : f.operands[k]? = some g) (hLow : p + 1 + sizeList (f.operands.take k) < i) :
    p + 1 + sizeList (f.operands.take k) + g.size ≤ i := by
  obtain ⟨l, g', hg', rfl⟩ := h.isChild_iff.mp hChild
  rcases Nat.lt_trichotomy l k with hLess | rfl | hMore
  · have := sizeList_take_add_le hg' hLess
    omega
  · omega
  · have := sizeList_take_add_le hg hMore
    omega

/-! ## The whole array -/

/-- The array holds the nodes of the formula and nothing else. -/
structure Holds (nodes : Array Node) (f : Formula) : Prop where
  laid : Laid nodes 0 .root f
  size : nodes.size = f.size

theorem Tree.holds (t : Tree) : Holds t.nodes t.root := ⟨t.laid_root, t.size_nodes⟩

namespace Holds

variable (h : Holds nodes f)

include h

theorem laid_at (hi : i < nodes.size) : ∃ g m, Laid nodes i m g ∧ i + g.size ≤ nodes.size := by
  have hBound : i < 0 + f.size := by
    have := h.size
    omega
  obtain ⟨g, m, hg, -, hEnd⟩ :=
    h.laid.exists_of_lt (fun _ _ _ _ => trivial) trivial (Nat.zero_le i) hBound
  have := h.size
  exact ⟨g, m, hg, by omega⟩

theorem laid_of_node {n : Node} (hn : nodes[i]? = some n) :
    ∃ g m, Laid nodes i m g ∧ i + g.size ≤ nodes.size :=
  h.laid_at (Array.getElem?_eq_some_iff.mp hn).1

theorem behind {c : Nat} (hChild : IsChild nodes p c) : p < c ∧ c < nodes.size := by
  obtain ⟨n, hn, hc⟩ := hChild
  obtain ⟨g, m, hg, hEnd⟩ := h.laid_of_node hn
  have hAbove := hg.isAbove_iff.mp (.single ⟨n, hn, hc⟩)
  omega

theorem above_lt (hAbove : IsAbove nodes p i) : p < i := by
  induction hAbove with
  | single hChild => exact (h.behind hChild).1
  | tail _ hChild ih => exact Nat.lt_trans ih (h.behind hChild).1

theorem exists_parent (hPos : 0 < i) (hi : i < nodes.size) : ∃ p, IsChild nodes p i := by
  have hBound : i < 0 + f.size := by
    have := h.size
    omega
  have hAbove := h.laid.isAbove_iff.mpr ⟨hPos, hBound⟩
  obtain ⟨p, -, hChild⟩ := Relation.TransGen.tail'_iff.mp hAbove
  exact ⟨p, hChild⟩

/-- Of two parents the later one would lie below a child of the earlier one, and so would what is
below it. -/
theorem not_lt_of_isChild {q : Nat} (hp : IsChild nodes p i) (hq : IsChild nodes q i) :
    ¬p < q := by
  -- The nearer parent `q` would lie in an operand of `p`, which then holds `i` below its own root,
  -- where no child of `p` stands.
  intro hLess
  obtain ⟨n, hn, -⟩ := id hp
  obtain ⟨g, m, hg, -⟩ := h.laid_of_node hn
  have hInside := hg.isAbove_iff.mp (.single hp)
  have hBefore := (h.behind hq).1
  have hRoot := g.size_eq
  have hBelow : q - (p + 1) < sizeList g.operands := by omega
  obtain ⟨k, r, hr, hFrom, hTo⟩ := exists_operand_at hBelow
  have hOperand := hg.operand hr
  have hAbove : IsAbove nodes (p + 1 + sizeList (g.operands.take k)) i := by
    by_cases hSame : q = p + 1 + sizeList (g.operands.take k)
    · rw [← hSame]
      exact .single hq
    · exact .tail (hOperand.isAbove_iff.mpr (by omega)) hq
  have hLast := hOperand.isAbove_iff.mp hAbove
  have hOutside := hg.not_inside hp hr hLast.1
  omega

theorem unique_parent {q : Nat} (hp : IsChild nodes p i) (hq : IsChild nodes q i) : p = q := by
  have hNotLess := h.not_lt_of_isChild hp hq
  have hNotMore := h.not_lt_of_isChild hq hp
  omega

theorem isAbove_iff_of_isChild {q : Nat} (hq : IsChild nodes q i) :
    IsAbove nodes p i ↔ p = q ∨ IsAbove nodes p q := by
  constructor
  · intro hAbove
    obtain ⟨r, hReach, hChild⟩ := Relation.TransGen.tail'_iff.mp hAbove
    cases h.unique_parent hChild hq
    rcases Relation.reflTransGen_iff_eq_or_transGen.mp hReach with hEq | hPath
    · exact .inl hEq.symm
    · exact .inr hPath
  · rintro (rfl | hAbove)
    · exact .single hq
    · exact .tail hAbove hq

theorem increasing {n : Node} (hn : nodes[p]? = some n) : n.children.Pairwise (· < ·) := by
  obtain ⟨g, m, hg, -⟩ := h.laid_of_node hn
  cases Option.some.inj (hn.symm.trans hg.node)
  exact positions_pairwise _ _

theorem index_unique {n : Node} (hn : nodes[p]? = some n) {k l c : Nat}
    (hk : n.children[k]? = some c) (hl : n.children[l]? = some c) : k = l := by
  have hNodup : n.children.Nodup := (h.increasing hn).imp Nat.ne_of_lt
  obtain ⟨hkBound, hkc⟩ := List.getElem?_eq_some_iff.mp hk
  obtain ⟨hlBound, hlc⟩ := List.getElem?_eq_some_iff.mp hl
  exact hNodup.getElem_inj_iff.mp (hkc.trans hlc.symm)

/-- The mark of a child follows from that of its parent. -/
theorem mark_of_child {n n' : Node} (hn : nodes[p]? = some n) {k c : Nat}
    (hk : n.children[k]? = some c) (hn' : nodes[c]? = some n') :
    n'.mark = n.kind.markOf k n.mark := by
  obtain ⟨g, m, hg, -⟩ := h.laid_of_node hn
  cases Option.some.inj (hn.symm.trans hg.node)
  obtain ⟨l, r, hr, hl, rfl⟩ := exists_of_mem_positions (List.mem_of_getElem? hk)
  cases h.index_unique hn hk hl
  cases Option.some.inj (hn'.symm.trans (hg.operand hr).node)
  rfl

/-! ## Marks -/

theorem root_mark {n : Node} (hn : nodes[0]? = some n) : n.mark = .root := by
  cases Option.some.inj (hn.symm.trans h.laid.node)
  rfl

/-- The parent of a node that is not the first one, and which of its children the node is. -/
theorem exists_parent_node {n : Node} (hn : nodes[i]? = some n) (hPos : 0 < i) :
    ∃ (p : Nat) (n' : Node) (k : Nat), nodes[p]? = some n' ∧ n'.children[k]? = some i ∧ p < i ∧
      IsChild nodes p i ∧ n.mark = n'.kind.markOf k n'.mark := by
  obtain ⟨p, hChild⟩ := h.exists_parent hPos (Array.getElem?_eq_some_iff.mp hn).1
  obtain ⟨n', hn', hMem⟩ := id hChild
  obtain ⟨k, hk⟩ := List.mem_iff_getElem?.mp hMem
  exact ⟨p, n', k, hn', hk, (h.behind hChild).1, hChild, h.mark_of_child hn' hk hn⟩

theorem finite_negationsAbove (i : Nat) : (negationsAbove nodes i).Finite :=
  (Set.finite_lt_nat i).subset fun _ hp => h.above_lt hp.1

theorem ncard_negationsAbove {q : Nat} (hChild : IsChild nodes q i) {n : Node}
    (hn : nodes[q]? = some n) :
    (negationsAbove nodes i).ncard =
      (negationsAbove nodes q).ncard + if n.kind = .negation then 1 else 0 := by
  by_cases hKind : n.kind = .negation
  · have hInsert : negationsAbove nodes i = insert q (negationsAbove nodes q) := by
      ext p
      simp only [negationsAbove, Set.mem_ofPred_eq, Set.mem_insert_iff,
        h.isAbove_iff_of_isChild hChild]
      constructor
      · rintro ⟨rfl | hAbove, hp⟩
        · exact .inl rfl
        · exact .inr ⟨hAbove, hp⟩
      · rintro (rfl | ⟨hAbove, hp⟩)
        · exact ⟨.inl rfl, by rw [hn, Option.map_some, hKind]⟩
        · exact ⟨.inr hAbove, hp⟩
    have hNew : q ∉ negationsAbove nodes q := fun hq => Nat.lt_irrefl q (h.above_lt hq.1)
    rw [hInsert, Set.ncard_insert_of_notMem hNew (h.finite_negationsAbove q), if_pos hKind]
  · have hSame : negationsAbove nodes i = negationsAbove nodes q := by
      ext p
      simp only [negationsAbove, Set.mem_ofPred_eq, h.isAbove_iff_of_isChild hChild]
      constructor
      · rintro ⟨rfl | hAbove, hp⟩
        · rw [hn, Option.map_some, Option.some.injEq] at hp
          exact absurd hp hKind
        · exact ⟨hAbove, hp⟩
      · rintro ⟨hAbove, hp⟩
        exact ⟨.inr hAbove, hp⟩
    rw [hSame, if_neg hKind, Nat.add_zero]

/-- Each negation above a node turns around what the node should be. -/
theorem should_iff {n : Node} (hn : nodes[i]? = some n) :
    n.mark.should = true ↔ (negationsAbove nodes i).ncard % 2 = 0 := by
  induction i using Nat.strongRecOn generalizing n with
  | _ i ih =>
  rcases Nat.eq_zero_or_pos i with rfl | hPos
  · have hNone : negationsAbove nodes 0 = ∅ := by
      ext p
      simp only [negationsAbove, Set.mem_ofPred_eq, Set.mem_empty_iff_false, iff_false]
      exact fun hp => absurd (h.above_lt hp.1) (Nat.not_lt_zero p)
    rw [hNone, Set.ncard_empty, h.root_mark hn]
    decide
  · obtain ⟨q, n', k, hn', -, hLess, hChild, hMark⟩ := h.exists_parent_node hn hPos
    have hParent := ih q hLess hn'
    rw [h.ncard_negationsAbove hChild hn', hMark]
    cases hKind : n'.kind with
    | negation =>
      have hTurn : (NodeKind.negation.markOf k n'.mark).should = !n'.mark.should := rfl
      rw [hTurn, if_pos rfl]
      cases hShould : n'.mark.should
      all_goals
        rw [hShould] at hParent
        simp at hParent ⊢
        omega
    | _ => exact hParent

theorem not_isExcused_zero : ¬IsExcused nodes 0 := by
  rintro ⟨p, n, k, c, hn, -, hk, -, hBelow⟩
  have hLater := (h.behind ⟨n, hn, List.mem_of_getElem? hk⟩).1
  rcases hBelow with rfl | hAbove
  · omega
  · exact absurd (h.above_lt hAbove) (Nat.not_lt_zero c)

theorem isExcused_iff_of_child {q : Nat} {n : Node} (hn : nodes[q]? = some n) {k : Nat}
    (hk : n.children[k]? = some i) :
    IsExcused nodes i ↔ IsExcused nodes q ∨ (n.kind = .disjunction ∧ 0 < k) := by
  have hChild : IsChild nodes q i := ⟨n, hn, List.mem_of_getElem? hk⟩
  constructor
  · rintro ⟨p, n', l, c, hn', hKind, hl, hPos, rfl | hAbove⟩
    · cases h.unique_parent ⟨n', hn', List.mem_of_getElem? hl⟩ hChild
      cases Option.some.inj (hn'.symm.trans hn)
      cases h.index_unique hn hk hl
      exact .inr ⟨hKind, hPos⟩
    · have hParent := (h.isAbove_iff_of_isChild hChild).mp hAbove
      exact .inl ⟨p, n', l, c, hn', hKind, hl, hPos, hParent⟩
  · rintro (⟨p, n', l, c, hn', hKind, hl, hPos, hBelow⟩ | ⟨hKind, hPos⟩)
    · exact ⟨p, n', l, c, hn', hKind, hl, hPos,
        .inr ((h.isAbove_iff_of_isChild hChild).mpr hBelow)⟩
    · exact ⟨q, n, k, i, hn, hKind, hk, hPos, .inl rfl⟩

/-- A node loses its blame with the first `or` that it, or what it lies below, is not first in. -/
theorem blamed_iff {n : Node} (hn : nodes[i]? = some n) :
    n.mark.blamed = true ↔ ¬IsExcused nodes i := by
  induction i using Nat.strongRecOn generalizing n with
  | _ i ih =>
  rcases Nat.eq_zero_or_pos i with rfl | hPos
  · rw [h.root_mark hn]
    exact ⟨fun _ => h.not_isExcused_zero, fun _ => rfl⟩
  · obtain ⟨q, n', k, hn', hk, hLess, -, hMark⟩ := h.exists_parent_node hn hPos
    rw [h.isExcused_iff_of_child hn' hk, not_or, ← ih q hLess hn', hMark]
    cases hKind : n'.kind with
    | disjunction =>
      have hFirst : (NodeKind.disjunction.markOf k n'.mark).blamed =
          (n'.mark.blamed && k == 0) := rfl
      rw [hFirst, Bool.and_eq_true, beq_iff_eq]
      have hIndex : k = 0 ↔ ¬(NodeKind.disjunction = .disjunction ∧ 0 < k) := by
        simp only [true_and, Nat.pos_iff_ne_zero, not_not]
      rw [hIndex]
    | _ => exact (and_iff_left (fun hFalse => nomatch hFalse.1)).symm

end Holds

/-! ## Leaves -/

/-- The atom for which a node stands. -/
def Node.leaf? (n : Node) : Option Leaf :=
  match n.kind with
  | .atom id => some ⟨id, n.mark⟩
  | _ => none

/-- The positions of the atoms are those among all positions that hold one. -/
theorem atomPositions_eq (start : Nat) (ns : List Node) :
    atomPositions start ns =
      (List.range' start ns.length).filter fun i => ns[i - start]?.any Node.isLeaf := by
  induction ns generalizing start with
  | nil => rfl
  | cons n ns ih =>
    have hRest : (List.range' (start + 1) ns.length).filter
        (fun i => (n :: ns)[i - start]?.any Node.isLeaf) = atomPositions (start + 1) ns := by
      rw [ih]
      refine List.filter_congr fun i hi => ?_
      have hLow := (List.mem_range'_1.mp hi).1
      rw [show i - start = i - (start + 1) + 1 by omega, List.getElem?_cons_succ]
    have hHere : (n :: ns)[start - start]?.any Node.isLeaf = n.isLeaf := by
      rw [Nat.sub_self]
      rfl
    rw [List.length_cons, List.range'_succ, List.filter_cons, hRest, hHere]
    cases hLeaf : n.isLeaf <;> simp [atomPositions, hLeaf]

mutual

theorem Formula.filterMap_leaf?_nodesAt (start : Nat) (m : Mark) :
    (f : Formula) → (f.nodesAt start m).filterMap Node.leaf? = f.leavesAt m
  | .atom _ => rfl
  | .negation _ f => filterMap_leaf?_nodesAt (start + 1) m.negate f
  | .conjunction _ fs => filterMap_leaf?_nodesEach (start + 1) m fs
  | .disjunction _ fs => filterMap_leaf?_nodesFirst (start + 1) m fs

theorem Formula.filterMap_leaf?_nodesEach (start : Nat) (m : Mark) :
    (fs : List Formula) → (nodesEach start m fs).filterMap Node.leaf? = leavesEach m fs
  | [] => rfl
  | f :: fs => by
    rw [nodesEach, List.filterMap_append, filterMap_leaf?_nodesAt start m f,
      filterMap_leaf?_nodesEach (start + f.size) m fs, leavesEach]

theorem Formula.filterMap_leaf?_nodesFirst (start : Nat) (m : Mark) :
    (fs : List Formula) → (nodesFirst start m fs).filterMap Node.leaf? = leavesFirst m fs
  | [] => rfl
  | f :: fs => by
    rw [nodesFirst, List.filterMap_append, filterMap_leaf?_nodesAt start m f,
      filterMap_leaf?_nodesEach (start + f.size) m.excuse fs, leavesFirst]

end

/-- Reading the nodes at the positions of the atoms gives the atoms. -/
theorem map_leaf?_atomPositions (start : Nat) (ns : List Node) :
    (atomPositions start ns).map (fun i => ns[i - start]?.bind Node.leaf?) =
      (ns.filterMap Node.leaf?).map some := by
  induction ns generalizing start with
  | nil => rfl
  | cons n ns ih =>
    have hRest : (atomPositions (start + 1) ns).map
        (fun i => (n :: ns)[i - start]?.bind Node.leaf?) =
          (ns.filterMap Node.leaf?).map some := by
      rw [← ih (start + 1)]
      refine List.map_congr_left fun i hi => ?_
      rw [atomPositions_eq] at hi
      have hLow := (List.mem_range'_1.mp (List.mem_filter.mp hi).1).1
      rw [show i - start = i - (start + 1) + 1 by omega, List.getElem?_cons_succ]
    rw [show n :: ns = [n] ++ ns from rfl, atomPositions_append, List.map_append,
      List.filterMap_append, List.map_append]
    congr 1
    cases hKind : n.kind <;> simp [atomPositions, Node.isLeaf, Node.leaf?, hKind]

/-! ## Built arrays -/

/-- Operands of a proper formula are proper. -/
theorem Formula.Proper.operand (h : f.Proper) : ∀ g ∈ f.operands, g.Proper := by
  cases h with
  | atom id => nofun
  | negation h => exact List.forall_mem_singleton.mpr h
  | conjunction _ h => exact h
  | disjunction _ h => exact h

theorem Formula.Proper.takes (h : f.Proper) : f.kind.Takes f.operands.length := by
  cases h with
  | atom id => rfl
  | negation h => rfl
  | conjunction hlen _ => exact hlen
  | disjunction hlen _ => exact hlen

theorem Holds.arity (h : Holds nodes f) (hf : f.Proper) {n : Node} (hn : nodes[i]? = some n) :
    n.kind.Takes n.children.length := by
  have hi := (Array.getElem?_eq_some_iff.mp hn).1
  have hSize := h.size
  obtain ⟨g, m, hLaid, hg, -⟩ :=
    h.laid.exists_of_lt (fun _ hf => hf.operand) hf (Nat.zero_le i) (by omega)
  cases Option.some.inj (hn.symm.trans hLaid.node)
  have hLength := length_positions (i + 1) g.operands
  simp only [hLength]
  exact hg.takes

/-- A tree that was built stands in preorder. -/
theorem Tree.preordered {logic : String} {t : Tree} (h : Tree.build logic = .ok t) :
    Arena.Preordered ⟨t.nodes, (atomPositions 0 t.root.nodes).toArray⟩ where
  nonempty := by
    rw [t.holds.size]
    exact t.root.size_pos
  root _ hChild := absurd (t.holds.behind hChild).1 (Nat.not_lt_zero _)
  below_root i := by
    rw [t.holds.laid.isAbove_iff, Nat.zero_add, t.holds.size]
  parent i hPos hi := by
    obtain ⟨p, hp⟩ := t.holds.exists_parent hPos hi
    exact ⟨p, hp, fun q hq => t.holds.unique_parent hq hp⟩
  increasing _ _ hn := t.holds.increasing hn
  behind _ _ hChild := t.holds.behind hChild
  contiguous p hp := by
    obtain ⟨g, m, hg, hEnd⟩ := t.holds.laid_at hp
    have hPos := g.size_pos
    exact ⟨p + g.size, by omega, hEnd, fun i => hg.isAbove_iff⟩
  arity _ _ hn := t.holds.arity (Tree.proper_root h) hn
  leaves := by
    rw [atomPositions_eq, t.nodes_eq, List.range_eq_range']
    simp
  should _ _ hn := t.holds.should_iff hn
  blamed _ _ hn := t.holds.blamed_iff hn

/-- **The arena is the syntax tree in preorder.** Whenever a text has a tree, the nodes are built
without error, they are those of the tree, and they stand in preorder with the right marks and
leaves. And every text whose words spell an expression that is not too deep has the tree of that
expression, without its brackets and with one node for each chain. -/
theorem arena_in_preorder :
    (∀ logic t, Tree.build logic = .ok t →
      ∃ a, Arena.build logic = .ok a ∧ a.nodes = t.nodes ∧ a.Preordered ∧
        a.leaves.toList.map (fun i => a.nodes[i]?.bind Node.leaf?) = t.root.leaves.map some) ∧
    ∀ (logic : String) (x : OrChain AtomId),
      (words logic).map Token.read? = x.tokens.map some → x.depth ≤ 256 →
        ∃ (d : OrChain Numeral) (t : Tree), d.map Numeral.id = x ∧ d.words = words logic ∧
          Tree.build logic = .ok t ∧ t.root = d.formula := by
  constructor
  · intro logic t h
    refine ⟨⟨t.nodes, (atomPositions 0 t.root.nodes).toArray⟩, ?_, rfl, Tree.preordered h, ?_⟩
    · rw [Arena.build_eq, h]
      rfl
    · have hAtoms : t.root.nodes.filterMap Node.leaf? = t.root.leaves :=
        filterMap_leaf?_nodesAt 0 .root t.root
      have hLeaves := map_leaf?_atomPositions 0 t.root.nodes
      rw [hAtoms] at hLeaves
      simpa [t.nodes_eq] using hLeaves
  · intro logic x hRead hDepth
    obtain ⟨d, hWords, rfl⟩ := x.exists_words_eq (words logic) hRead
    rw [d.depth_map] at hDepth
    have hBuild := Tree.build_eq_ok_of_words hWords.symm (by omega)
    exact ⟨d, _, rfl, hWords, hBuild, rfl⟩

theorem arena_in_preorder_negated_or :
    ∃ t a, Tree.build "not ( 1 or 2 ) and 007" = .ok t ∧
      Arena.build "not ( 1 or 2 ) and 007" = .ok a ∧ a.nodes = t.nodes ∧ a.Preordered := by
  have hRead : (words "not ( 1 or 2 ) and 007").map Token.read? =
      (OrChain.last (.and (.not (.brackets (.or (.last (.atom 1)) (.last (.last (.atom 2))))))
        (.last (.atom 7)))).tokens.map some := by decide +kernel
  obtain ⟨-, t, -, -, hBuild, -⟩ := arena_in_preorder.2 _ _ hRead (by decide)
  obtain ⟨a, ha, hNodes, hOrdered, -⟩ := arena_in_preorder.1 _ t hBuild
  exact ⟨t, a, hBuild, ha, hNodes, hOrdered⟩

end RuleVerdict.Logic
