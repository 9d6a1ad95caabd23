import RuleVerdict.Proofs.Logic.Agreement
import RuleVerdict.Proofs.Logic.Preorder

/-!
# The texts of nodes

A node keeps the words it was read from, without the brackets around them, and an atom keeps its
id in plain digits. Such a text is read as the node again, with all that is below it. The nodes
are then the same, only that they begin at 0 and that their marks are those below a root.

* `Spelled`: some words of bounded depth spell the formula, and so they do for its operands.
* `Spelled.build_text`: the text of such a formula is read as the formula.
* `nodesAt_add`: where the nodes of a formula begin, and below which mark.
* `node_text_rebuilds`: the text of a node is read as the part of the tree below it.
-/

namespace RuleVerdict.Logic

open Formula

/-- The word can stand between spaces. -/
def Solid (w : String) : Prop := ' ' ∉ w.toList ∧ w.toList ≠ []

theorem solid_of_mem_words {s w : String} (h : w ∈ words s) : Solid w := by
  obtain ⟨cs, hcs, rfl⟩ := List.mem_map.mp h
  rw [Solid, String.toList_ofList]
  exact ⟨not_mem_of_mem_wordsOf hcs, ne_nil_of_mem_wordsOf hcs⟩

/-- Some expression of at most that depth stands for the formula. -/
def Spelled (depth : Nat) (f : Formula) : Prop :=
  ∃ d : OrChain Numeral, d.formula = f ∧ d.depth ≤ depth ∧ ∀ w ∈ d.words, Solid w

/-! ## Operands of an expression -/

variable {depth : Nat}

mutual

theorem OrChain.spelled_formulas : (d : OrChain Numeral) → d.depth ≤ depth →
    (∀ w ∈ d.words, Solid w) → ∀ g ∈ d.formulas, Spelled depth g
  | .last c, hDepth, hWords => List.forall_mem_singleton.mpr ⟨.last c, rfl, hDepth, hWords⟩
  | .or c d, hDepth, hWords => by
    rw [OrChain.words, List.forall_mem_append, List.forall_mem_cons] at hWords
    rw [OrChain.depth] at hDepth
    have hFirst : Spelled depth c.formula := ⟨.last c, rfl, by simp; omega, hWords.1⟩
    exact List.forall_mem_cons.mpr ⟨hFirst, d.spelled_formulas (by omega) hWords.2.2⟩

theorem AndChain.spelled_formulas : (c : AndChain Numeral) → c.depth ≤ depth →
    (∀ w ∈ c.words, Solid w) → ∀ g ∈ c.formulas, Spelled depth g
  | .last u, hDepth, hWords =>
    List.forall_mem_singleton.mpr ⟨.last (.last u), rfl, hDepth, hWords⟩
  | .and u c, hDepth, hWords => by
    rw [AndChain.words, List.forall_mem_append, List.forall_mem_cons] at hWords
    rw [AndChain.depth] at hDepth
    have hFirst : Spelled depth u.formula := ⟨.last (.last u), rfl, by simp; omega, hWords.1⟩
    exact List.forall_mem_cons.mpr ⟨hFirst, c.spelled_formulas (by omega) hWords.2.2⟩

end

mutual

/-- What the operands of a formula stand for is part of what the formula stands for. -/
theorem OrChain.spelled_operands : (d : OrChain Numeral) → d.depth ≤ depth →
    (∀ w ∈ d.words, Solid w) → ∀ g ∈ d.formula.operands, Spelled depth g
  | .last c, hDepth, hWords => c.spelled_operands hDepth hWords
  | .or c d, hDepth, hWords => (OrChain.or c d).spelled_formulas hDepth hWords

theorem AndChain.spelled_operands : (c : AndChain Numeral) → c.depth ≤ depth →
    (∀ w ∈ c.words, Solid w) → ∀ g ∈ c.formula.operands, Spelled depth g
  | .last u, hDepth, hWords => u.spelled_operands hDepth hWords
  | .and u c, hDepth, hWords => (AndChain.and u c).spelled_formulas hDepth hWords

theorem Operand.spelled_operands : (u : Operand Numeral) → u.depth ≤ depth →
    (∀ w ∈ u.words, Solid w) → ∀ g ∈ u.formula.operands, Spelled depth g
  | .atom _, _, _ => nofun
  | .not u, hDepth, hWords => by
    rw [Operand.depth] at hDepth
    exact List.forall_mem_singleton.mpr
      ⟨.last (.last u), rfl, by simp; omega, (List.forall_mem_cons.mp hWords).2⟩
  | .brackets d, hDepth, hWords => by
    rw [Operand.depth] at hDepth
    rw [Operand.words, List.forall_mem_cons, List.forall_mem_append] at hWords
    exact d.spelled_operands (by omega) hWords.2.1

end

theorem Spelled.operand {f : Formula} (h : Spelled depth f) :
    ∀ g ∈ f.operands, Spelled depth g := by
  obtain ⟨d, rfl, hDepth, hWords⟩ := h
  exact d.spelled_operands hDepth hWords

/-! ## Reading the text of a formula -/

/-- The plain digits of an id as a numeral. -/
def Numeral.ofId (id : AtomId) : Numeral where
  word := id.text
  id := id
  reads := by
    apply Token.atomOfWord?_of_digits
    rw [AtomId.text, Text.numeral, String.toList_ofList]
    exact AtomId.ofDigits?_digits id

mutual

/-- The text of the formula of an expression is an expression for it, at most as deep. -/
theorem OrChain.exists_words_text : (d : OrChain Numeral) → (∀ w ∈ d.words, Solid w) →
    ∃ e : OrChain Numeral, e.formula = d.formula ∧ e.depth ≤ d.depth ∧
      words d.formula.text = e.words
  | .last c, hWords => c.exists_words_text hWords
  | .or c d, hWords => ⟨.or c d, rfl, Nat.le_refl _, words_join hWords⟩

theorem AndChain.exists_words_text : (c : AndChain Numeral) → (∀ w ∈ c.words, Solid w) →
    ∃ e : OrChain Numeral, e.formula = c.formula ∧ e.depth ≤ c.depth ∧
      words c.formula.text = e.words
  | .last u, hWords => u.exists_words_text hWords
  | .and u c, hWords => ⟨.last (.and u c), rfl, Nat.le_refl _, words_join hWords⟩

theorem Operand.exists_words_text : (u : Operand Numeral) → (∀ w ∈ u.words, Solid w) →
    ∃ e : OrChain Numeral, e.formula = u.formula ∧ e.depth ≤ u.depth ∧
      words u.formula.text = e.words
  | .atom n, _ => by
    refine ⟨.last (.last (.atom (.ofId n.id))), rfl, Nat.le_refl 0, ?_⟩
    have hJoin : Text.join ' ' [n.id.text] = n.id.text := by
      simp [Text.join, Text.glue]
    have hText := words_join (List.forall_mem_singleton.mpr (Token.id n.id).toList_word)
    rw [Token.word, hJoin] at hText
    exact hText
  | .not u, hWords => ⟨.last (.last (.not u)), rfl, Nat.le_refl _, words_join hWords⟩
  | .brackets d, hWords => by
    rw [Operand.words, List.forall_mem_cons, List.forall_mem_append] at hWords
    obtain ⟨e, hFormula, hDepth, hText⟩ := d.exists_words_text hWords.2.1
    exact ⟨e, hFormula, by rw [Operand.depth]; omega, hText⟩

end

/-- A formula that stands for words within the limit is read from its own text. -/
theorem Spelled.build_text {f : Formula} (h : Spelled 256 f) :
    Tree.build f.text = .ok { logic := f.text, root := f } := by
  obtain ⟨d, rfl, hDepth, hWords⟩ := h
  obtain ⟨e, hFormula, hLess, hText⟩ := d.exists_words_text hWords
  rw [Tree.build_eq_ok_of_words hText (by omega), hFormula]

theorem Tree.spelled_root {logic : String} {t : Tree} (h : Tree.build logic = .ok t) :
    Spelled 256 t.root := by
  obtain ⟨hDepth, f, hf, rfl⟩ := Tree.build_eq_ok_iff.mp h
  obtain ⟨d, hd⟩ := exists_words_of_build hf
  rw [← hd, d.build_words, Except.ok.injEq] at hf
  rw [← hd, nesting_words] at hDepth
  refine ⟨d, hf, hDepth, fun w hw => ?_⟩
  rw [hd] at hw
  exact solid_of_mem_words hw

/-! ## Moving nodes -/

/-- The mark below a node with the mark `m` of what has the mark `inner` below a root. -/
def Mark.above (m inner : Mark) : Mark :=
  ⟨if m.should then inner.should else !inner.should, m.blamed && inner.blamed⟩

/-- The node behind `start` other nodes and below a node with the mark `m`. -/
def Node.moved (start : Nat) (m : Mark) (n : Node) : Node :=
  { n with children := n.children.map (start + ·), mark := m.above n.mark }

theorem Mark.above_root (m : Mark) : m.above .root = m := by
  obtain ⟨should, blamed⟩ := m
  cases should <;> cases blamed <;> rfl

theorem Mark.above_negate (m inner : Mark) : m.above inner.negate = (m.above inner).negate := by
  obtain ⟨should, blamed⟩ := m
  obtain ⟨inner, blamed'⟩ := inner
  cases should <;> cases inner <;> rfl

theorem Mark.above_excuse (m inner : Mark) : m.above inner.excuse = (m.above inner).excuse := by
  simp [above, excuse]

theorem positions_add (start s : Nat) (fs : List Formula) :
    positions (start + s) fs = (positions s fs).map (start + ·) := by
  induction fs generalizing s with
  | nil => rfl
  | cons f fs ih => rw [positions, positions, List.map_cons, Nat.add_assoc, ih]

variable (start : Nat) (m : Mark)

mutual

/-- Where the nodes of a formula begin and below which mark only moves them. -/
theorem nodesAt_add (s : Nat) (inner : Mark) : (f : Formula) →
    f.nodesAt (start + s) (m.above inner) = (f.nodesAt s inner).map (Node.moved start m)
  | .atom _ => rfl
  | .negation _ f => by
    rw [nodesAt, nodesAt, List.map_cons, Nat.add_assoc, ← Mark.above_negate,
      nodesAt_add (s + 1) inner.negate f]
    rfl
  | .conjunction _ fs => by
    rw [nodesAt, nodesAt, List.map_cons, Nat.add_assoc, positions_add,
      nodesEach_add (s + 1) inner fs]
    rfl
  | .disjunction _ fs => by
    rw [nodesAt, nodesAt, List.map_cons, Nat.add_assoc, positions_add,
      nodesFirst_add (s + 1) inner fs]
    rfl

theorem nodesEach_add (s : Nat) (inner : Mark) : (fs : List Formula) →
    nodesEach (start + s) (m.above inner) fs = (nodesEach s inner fs).map (Node.moved start m)
  | [] => rfl
  | f :: fs => by
    rw [nodesEach, nodesEach, List.map_append, nodesAt_add s inner f, Nat.add_assoc,
      nodesEach_add (s + f.size) inner fs]

theorem nodesFirst_add (s : Nat) (inner : Mark) : (fs : List Formula) →
    nodesFirst (start + s) (m.above inner) fs = (nodesFirst s inner fs).map (Node.moved start m)
  | [] => rfl
  | f :: fs => by
    rw [nodesFirst, nodesFirst, List.map_append, nodesAt_add s inner f, Nat.add_assoc,
      ← Mark.above_excuse, nodesEach_add (s + f.size) inner.excuse fs]

end

/-- Where a formula stands, its nodes are those that it has as a whole tree, moved. -/
theorem Laid.getElem?_add {nodes : Array Node} {p k : Nat} {m : Mark} {f : Formula}
    (h : Laid nodes p m f) {n : Node} (hn : f.nodes[k]? = some n) :
    nodes[p + k]? = some (n.moved p m) := by
  have hNodes := nodesAt_add p m 0 .root f
  rw [Nat.add_zero, Mark.above_root] at hNodes
  obtain ⟨rest, hRest⟩ := h
  have hFound : (nodes.toList.drop p)[k]? = some (n.moved p m) := by
    have hk : k < (f.nodesAt p m).length := by
      rw [hNodes, List.length_map]
      exact (List.getElem?_eq_some_iff.mp hn).1
    rw [← hRest, List.getElem?_append_left hk, hNodes, List.getElem?_map]
    exact congrArg (Option.map (Node.moved p m)) hn
  simpa using hFound

/-- **The text of a node is read as the part of the tree below it.** The tree that is built from
it has the nodes that stand from that node on, in the same order and with the same kinds, texts and
children; what they should be worth is turned around where the node should be false, and they are
blamed only where the node is. -/
theorem node_text_rebuilds {logic : String} {t : Tree} (h : Tree.build logic = .ok t) {i : Nat}
    {n : Node} (hn : t.nodes[i]? = some n) :
    ∃ u, Tree.build n.text = .ok u ∧ i + u.nodes.size ≤ t.nodes.size ∧
      (∀ j, IsAbove t.nodes i j ↔ i < j ∧ j < i + u.nodes.size) ∧
      ∀ k r, u.nodes[k]? = some r → t.nodes[i + k]? = some
        { kind := r.kind
          text := r.text
          children := r.children.map (i + ·)
          mark :=
            { should := if n.mark.should then r.mark.should else !r.mark.should
              blamed := n.mark.blamed && r.mark.blamed } } := by
  have hi := (Array.getElem?_eq_some_iff.mp hn).1
  have hSize := t.holds.size
  obtain ⟨g, m, hLaid, hSpelled, hEnd⟩ := t.holds.laid.exists_of_lt (fun _ hf => hf.operand)
    (Tree.spelled_root h) (Nat.zero_le i) (by omega)
  have hBound : i + g.size ≤ t.nodes.size := by omega
  cases Option.some.inj (hn.symm.trans hLaid.node)
  refine ⟨_, hSpelled.build_text, ?_, fun j => ?_, fun k r hr => ?_⟩
  · rw [Tree.size_nodes]
    exact hBound
  · rw [Tree.size_nodes]
    exact hLaid.isAbove_iff
  · exact hLaid.getElem?_add (by simpa using hr)

theorem node_text_of_padded_id :
    ∃ t n u, Tree.build "not 007" = .ok t ∧ t.nodes[1]? = some n ∧ n.text = "7" ∧
      Tree.build n.text = .ok u ∧ 1 + u.nodes.size ≤ t.nodes.size := by
  have hWords : words "not 007" =
      (OrChain.last (.last (.not (.atom ⟨"007", 7, by decide +kernel⟩)))).words := by
    decide +kernel
  have hBuild := Tree.build_eq_ok_of_words hWords (by decide)
  obtain ⟨u, hu, hSize, -⟩ := node_text_rebuilds hBuild (i := 1) rfl
  exact ⟨_, _, u, hBuild, rfl, by decide +kernel, hu, hSize⟩

end RuleVerdict.Logic
