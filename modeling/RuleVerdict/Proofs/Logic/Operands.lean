import RuleVerdict.Logic.Arena
import RuleVerdict.Proofs.Logic.NodeValues

/-!
# Formulas by their operands

Whatever its kind, a formula is one node in front of the nodes of its operands, and the kind says
which marks these get. What is true of every formula in the array of nodes can so be proved
without a case for each kind.

* `nodesAt_eq`: the nodes of a formula are its own and those of its operands.
* `Laid.node`, `Laid.operand`: what stands where a formula begins, and where its operands begin.
* `Laid.exists_of_lt`: every node begins a formula, which has all that operands inherit.
-/

namespace RuleVerdict.Logic

namespace Formula

/-- The kind of the first node. -/
def kind : Formula → NodeKind
  | .atom id => .atom id
  | .negation _ _ => .negation
  | .conjunction _ _ => .conjunction
  | .disjunction _ _ => .disjunction

/-- The formulas directly below. -/
def operands : Formula → List Formula
  | .atom _ => []
  | .negation _ f => [f]
  | .conjunction _ fs => fs
  | .disjunction _ fs => fs

/-- The nodes of the operands of a node of the given kind and mark, from operand number `k` on. -/
def operandNodes (kind : NodeKind) (m : Mark) (start k : Nat) : List Formula → List Node
  | [] => []
  | f :: fs =>
    f.nodesAt start (kind.markOf k m) ++ operandNodes kind m (start + f.size) (k + 1) fs

theorem size_eq (f : Formula) : f.size = 1 + sizeList f.operands := by
  cases f <;> rfl

theorem size_pos (f : Formula) : 0 < f.size := by
  have h := f.size_eq
  omega

theorem operandNodes_conjunction (m : Mark) (start k : Nat) (fs : List Formula) :
    operandNodes .conjunction m start k fs = nodesEach start m fs := by
  induction fs generalizing start k with
  | nil => rfl
  | cons f fs ih =>
    rw [operandNodes, nodesEach, ih]
    rfl

theorem operandNodes_excused (m : Mark) (start k : Nat) (fs : List Formula) :
    operandNodes .disjunction m start (k + 1) fs = nodesEach start m.excuse fs := by
  induction fs generalizing start k with
  | nil => rfl
  | cons f fs ih =>
    have hMark : NodeKind.disjunction.markOf (k + 1) m = m.excuse := by
      simp [NodeKind.markOf, Mark.excuse]
    rw [operandNodes, nodesEach, hMark, ih]

theorem operandNodes_disjunction (m : Mark) (start : Nat) (fs : List Formula) :
    operandNodes .disjunction m start 0 fs = nodesFirst start m fs := by
  cases fs with
  | nil => rfl
  | cons f fs =>
    have hMark : NodeKind.disjunction.markOf 0 m = m := by
      simp [NodeKind.markOf]
    rw [operandNodes, nodesFirst, hMark, operandNodes_excused]

/-- The nodes of a formula are its own and those of its operands. -/
theorem nodesAt_eq (start : Nat) (m : Mark) (f : Formula) :
    f.nodesAt start m =
      ⟨f.kind, f.text, positions (start + 1) f.operands, m⟩ ::
        operandNodes f.kind m (start + 1) 0 f.operands := by
  cases f with
  | atom id => rfl
  | negation text f => simp [nodesAt, kind, operands, operandNodes, NodeKind.markOf, positions,
      Formula.text]
  | conjunction text fs => exact congrArg _ (operandNodes_conjunction m (start + 1) 0 fs).symm
  | disjunction text fs => exact congrArg _ (operandNodes_disjunction m (start + 1) fs).symm

/-! ## Where the operands begin -/

variable {fs : List Formula} {g : Formula} {k l q : Nat}

theorem length_positions (q : Nat) (fs : List Formula) : (positions q fs).length = fs.length := by
  induction fs generalizing q with
  | nil => rfl
  | cons f fs ih => rw [positions, List.length_cons, List.length_cons, ih]

theorem getElem?_positions (h : fs[k]? = some g) :
    (positions q fs)[k]? = some (q + sizeList (fs.take k)) := by
  induction fs generalizing q k with
  | nil => cases h
  | cons f fs ih =>
    cases k with
    | zero => rfl
    | succ k =>
      rw [positions, List.getElem?_cons_succ, ih h, List.take_succ_cons, sizeList, Nat.add_assoc]

/-- Each position is the beginning of an operand. -/
theorem exists_of_mem_positions {c : Nat} (h : c ∈ positions q fs) :
    ∃ k g, fs[k]? = some g ∧ (positions q fs)[k]? = some c ∧ c = q + sizeList (fs.take k) := by
  obtain ⟨k, hk, hc⟩ := List.mem_iff_getElem.mp h
  have hBound : k < fs.length := length_positions q fs ▸ hk
  have hg := List.getElem?_eq_getElem hBound
  have hPosition := getElem?_positions (q := q) hg
  have hFound : (positions q fs)[k]? = some c := by rw [List.getElem?_eq_getElem hk, hc]
  exact ⟨k, _, hg, hFound, Option.some.inj (hFound.symm.trans hPosition)⟩

theorem sizeList_take_add_le (h : fs[k]? = some g) (hl : k < l) :
    sizeList (fs.take k) + g.size ≤ sizeList (fs.take l) := by
  induction fs generalizing k l with
  | nil => cases h
  | cons f fs ih =>
    cases l with
    | zero => omega
    | succ l =>
      rw [List.take_succ_cons, sizeList]
      cases k with
      | zero =>
        cases h
        rw [List.take_zero, sizeList]
        omega
      | succ k =>
        have hRest := ih h (Nat.lt_of_succ_lt_succ hl)
        rw [List.take_succ_cons, sizeList]
        omega

theorem sizeList_take_add_le_sizeList (h : fs[k]? = some g) :
    sizeList (fs.take k) + g.size ≤ sizeList fs := by
  have hk : k < fs.length := (List.getElem?_eq_some_iff.mp h).1
  have hAll := sizeList_take_add_le h hk
  rwa [List.take_length] at hAll

theorem positions_pairwise (q : Nat) (fs : List Formula) :
    (positions q fs).Pairwise (· < ·) := by
  refine List.pairwise_iff_getElem.mpr fun k l hk hl hkl => ?_
  have hkBound : k < fs.length := length_positions q fs ▸ hk
  have hlBound : l < fs.length := length_positions q fs ▸ hl
  have hg := List.getElem?_eq_getElem hkBound
  have hFirst := getElem?_positions (q := q) hg
  have hSecond := getElem?_positions (q := q) (List.getElem?_eq_getElem hlBound)
  have hApart := sizeList_take_add_le hg hkl
  have hPos := (fs[k]).size_pos
  rw [List.getElem?_eq_getElem hk, Option.some.injEq] at hFirst
  rw [List.getElem?_eq_getElem hl, Option.some.injEq] at hSecond
  omega

/-- The operands leave no gap. -/
theorem exists_operand_at {i : Nat} (h : i < sizeList fs) :
    ∃ k g, fs[k]? = some g ∧ sizeList (fs.take k) ≤ i ∧ i < sizeList (fs.take k) + g.size := by
  induction fs generalizing i with
  | nil => cases h
  | cons f fs ih =>
    rw [sizeList] at h
    by_cases hi : i < f.size
    · refine ⟨0, f, rfl, Nat.zero_le _, ?_⟩
      rw [List.take_zero, sizeList]
      omega
    · obtain ⟨k, g, hg, hLow, hHigh⟩ := ih (i := i - f.size) (by omega)
      refine ⟨k + 1, g, hg, ?_⟩
      rw [List.take_succ_cons, sizeList]
      omega

end Formula

open Formula

/-! ## Formulas in the array -/

variable {nodes : Array Node} {p : Nat} {m : Mark} {f g : Formula} {k : Nat}

/-- The node with which a formula begins. -/
theorem Laid.node (h : Laid nodes p m f) :
    nodes[p]? = some ⟨f.kind, f.text, positions (p + 1) f.operands, m⟩ := by
  rw [Laid, nodesAt_eq] at h
  simpa using (getElem?_of_prefixed_cons h).1

theorem laid_of_operandNodes {kind : NodeKind} {fs : List Formula} {q j : Nat}
    (h : operandNodes kind m q j fs <+: nodes.toList.drop q) (hk : fs[k]? = some g) :
    Laid nodes (q + sizeList (fs.take k)) (kind.markOf (j + k) m) g := by
  induction fs generalizing q j k with
  | nil => cases hk
  | cons f fs ih =>
    obtain ⟨hf, hfs⟩ := prefixed_of_prefixed_append h
    rw [length_nodesAt] at hfs
    cases k with
    | zero =>
      cases hk
      exact hf
    | succ k =>
      have hRest := ih hfs hk
      rw [List.take_succ_cons, sizeList]
      rwa [Nat.add_assoc q, Nat.add_assoc j, Nat.add_comm 1] at hRest

/-- Where an operand begins, and with which mark. -/
theorem Laid.operand (h : Laid nodes p m f) (hk : f.operands[k]? = some g) :
    Laid nodes (p + 1 + sizeList (f.operands.take k)) (f.kind.markOf k m) g := by
  rw [Laid, nodesAt_eq] at h
  have hOperands := laid_of_operandNodes (getElem?_of_prefixed_cons h).2 hk
  rwa [Nat.zero_add] at hOperands

/-- What an operand has is found in the nodes of the formula. -/
theorem Laid.operand_le (hk : f.operands[k]? = some g) :
    sizeList (f.operands.take k) + g.size + 1 ≤ f.size := by
  have h := sizeList_take_add_le_sizeList hk
  have hf := f.size_eq
  omega

/-- Every node of a formula begins a formula, which has all that operands inherit. -/
theorem Laid.exists_of_lt {P : Formula → Prop} (hP : ∀ f, P f → ∀ g ∈ f.operands, P g)
    (h : Laid nodes p m f) (hf : P f) {i : Nat} (hLow : p ≤ i) (hHigh : i < p + f.size) :
    ∃ g m', Laid nodes i m' g ∧ P g ∧ i + g.size ≤ p + f.size := by
  induction hSize : f.size using Nat.strongRecOn generalizing p m f with
  | _ n ih =>
  by_cases hi : i = p
  · subst hi
    exact ⟨f, m, h, hf, by omega⟩
  · have hRoot := f.size_eq
    have hBelow : i - (p + 1) < sizeList f.operands := by omega
    obtain ⟨k, g, hg, hFrom, hTo⟩ := exists_operand_at hBelow
    have hLess := Laid.operand_le hg
    obtain ⟨g', m', hLaid, hg', hEnd⟩ := ih g.size (by omega) (h.operand hg)
      (hP f hf g (List.mem_of_getElem? hg)) (by omega) (by omega) rfl
    exact ⟨g', m', hLaid, hg', by omega⟩

end RuleVerdict.Logic
