import RuleVerdict.Proofs.Logic.Operands

/-!
# What is built is the formula

While the nodes are built, those of the operands stand in the array before their parent knows
where they are. Each call adds the nodes of one formula, with the children of all of them entered,
behind what is there, and changes nothing else; of the parent only the children are missing. The
formula is the one that is read from the same words, and the same words are refused.

* `Arena.extend`: nodes that are added, with the positions of the atoms among them.
* `Arena.places`: a call adds the nodes of the formula that is read.
* `Arena.build_eq`: the arena of a text holds the nodes of its tree.
-/

namespace RuleVerdict.Logic

open Formula

/-- Whether the node stands for an atom. -/
def Node.isLeaf (n : Node) : Bool :=
  match n.kind with
  | .atom _ => true
  | _ => false

/-- The positions of the atoms among nodes, the first of which has the position `start`. -/
def atomPositions (start : Nat) (ns : List Node) : List Nat :=
  ((ns.zipIdx start).filter fun x => x.1.isLeaf).map Prod.snd

theorem atomPositions_append (start : Nat) (ns ms : List Node) :
    atomPositions start (ns ++ ms) =
      atomPositions start ns ++ atomPositions (start + ns.length) ms := by
  simp only [atomPositions, List.zipIdx_append, List.filter_append, List.map_append]

namespace Arena

/-- The arena with more nodes at its end. -/
def extend (a : Arena) (ns : List Node) : Arena :=
  ⟨a.nodes ++ ns.toArray, a.leaves ++ (atomPositions a.nodes.size ns).toArray⟩

theorem size_extend (a : Arena) (ns : List Node) :
    (a.extend ns).nodes.size = a.nodes.size + ns.length := by
  simp [extend]

theorem extend_nil (a : Arena) : a.extend [] = a := by
  simp [extend, atomPositions]

theorem extend_extend (a : Arena) (ns ms : List Node) :
    (a.extend ns).extend ms = a.extend (ns ++ ms) := by
  simp [extend, atomPositions_append]

theorem pushLeaf_eq (a : Arena) (id : AtomId) (m : Mark) :
    a.pushLeaf id m = a.extend [⟨.atom id, id.text, [], m⟩] := by
  have hLeaf : atomPositions a.nodes.size [⟨.atom id, id.text, [], m⟩] = [a.nodes.size] := rfl
  rw [pushLeaf, extend, hLeaf]
  simp

theorem push_eq (a : Arena) {kind : NodeKind} (hKind : ∀ id, kind ≠ .atom id) (text : String)
    (m : Mark) :
    a.push kind text m = a.extend [⟨kind, text, [], m⟩] := by
  have hLeaf : atomPositions a.nodes.size [⟨kind, text, [], m⟩] = [] := by
    cases kind with
    | atom id => exact absurd rfl (hKind id)
    | _ => rfl
  rw [push, extend, hLeaf]
  simp

/-- Entering the children of a node leaves the nodes behind it alone. -/
theorem adopt_extend (a : Arena) (kind : NodeKind) (text : String) (m : Mark) (cs : List Nat)
    (ns : List Node) :
    (a.extend (⟨kind, text, [], m⟩ :: ns)).adopt a.nodes.size cs =
      a.extend (⟨kind, text, cs, m⟩ :: ns) := by
  have hNodes : (a.nodes ++ (⟨kind, text, [], m⟩ :: ns).toArray).modify a.nodes.size
      (fun n => { n with children := cs }) = a.nodes ++ (⟨kind, text, cs, m⟩ :: ns).toArray := by
    apply Array.toList_inj.mp
    rw [Array.toList_modify, Array.toList_append, List.modify_eq_take_cons_drop (by simp)]
    simp [List.drop_append]
  have hLeaves : atomPositions a.nodes.size (⟨kind, text, [], m⟩ :: ns) =
      atomPositions a.nodes.size (⟨kind, text, cs, m⟩ :: ns) := by
    cases kind <;> simp [atomPositions, Node.isLeaf]
  simp only [adopt, extend]
  rw [hNodes, hLeaves]

/-! ## Calls -/

/-- A call adds the nodes of the formula that is read from the words, and is refused with them. -/
def Places (ws : List String) : Prop :=
  ∀ m a, place ws m a =
    (Logic.build ws).map fun f => (a.nodes.size, a.extend (f.nodesAt a.nodes.size m))

theorem placeParts_eq {ps : List (List String)} (h : ∀ p ∈ ps, Places p) (kind : NodeKind)
    (m : Mark) (k : Nat) (a : Arena) :
    placeParts place kind m k ps a =
      (ps.mapM Logic.build).map fun fs =>
        (positions a.nodes.size fs, a.extend (operandNodes kind m a.nodes.size k fs)) := by
  induction ps generalizing k a with
  | nil => exact congrArg (fun b => Except.ok ([], b)) a.extend_nil.symm
  | cons p ps ih =>
    obtain ⟨hp, hps⟩ := List.forall_mem_cons.mp h
    rw [placeParts, hp, List.mapM_cons]
    cases Logic.build p with
    | error e => rfl
    | ok f =>
      have hRest := ih hps (k + 1) (a.extend (f.nodesAt a.nodes.size (kind.markOf k m)))
      rw [size_extend, length_nodesAt] at hRest
      simp only [Except.map, bind, Except.bind]
      rw [hRest]
      cases ps.mapM Logic.build with
      | error e => rfl
      | ok fs => simp only [Except.map, extend_extend, pure, Except.pure, positions, operandNodes]

/-- The node is pushed first and completed last. -/
theorem placeNode_eq {ps : List (List String)} (h : ∀ p ∈ ps, Places p) (kind : NodeKind)
    (hKind : ∀ id, kind ≠ .atom id) (text : String) (m : Mark) (a : Arena) :
    placeNode place kind text ps m a =
      (ps.mapM Logic.build).map fun fs =>
        (a.nodes.size, a.extend (⟨kind, text, positions (a.nodes.size + 1) fs, m⟩ ::
          operandNodes kind m (a.nodes.size + 1) 0 fs)) := by
  have hParts := placeParts_eq h kind m 0 (a.push kind text m)
  rw [push_eq a hKind, size_extend, List.length_singleton] at hParts
  rw [placeNode, push_eq a hKind, hParts]
  cases ps.mapM Logic.build with
  | error e => rfl
  | ok fs =>
    simp only [Except.map, bind, Except.bind, pure, Except.pure, extend_extend,
      List.singleton_append, adopt_extend]

/-- A call adds the nodes of the formula that is read. -/
theorem places (ws : List String) : Places ws := by
  induction hLength : ws.length using Nat.strongRecOn generalizing ws with
  | _ n ih =>
  intro m a
  rw [place_eq, build_eq]
  cases hd : decompose ws with
  | error e => rfl
  | ok d =>
    -- The parts are shorter, so the calls for them add what they should.
    have hParts : ∀ p ∈ d.parts, Places p := fun p hp =>
      ih p.length (hLength ▸ length_lt_of_decompose hd hp) p rfl
    cases d with
    | brackets inner => exact hParts inner List.mem_cons_self m a
    | atom id => exact congrArg (fun b => Except.ok (a.nodes.size, b)) (a.pushLeaf_eq id m)
    | disjunction parts =>
      refine (placeNode_eq hParts .disjunction (by simp) (Text.join ' ' ws) m a).trans ?_
      simp only [nodesAt_eq, Decomposition.parts]
      cases parts.mapM Logic.build <;> rfl
    | conjunction parts =>
      refine (placeNode_eq hParts .conjunction (by simp) (Text.join ' ' ws) m a).trans ?_
      simp only [nodesAt_eq, Decomposition.parts]
      cases parts.mapM Logic.build <;> rfl
    | negation rest =>
      refine (placeNode_eq hParts .negation (by simp) (Text.join ' ' ws) m a).trans ?_
      simp only [nodesAt_eq, Decomposition.parts, List.mapM_cons, List.mapM_nil]
      cases Logic.build rest <;> rfl

/-- The arena of a text holds the nodes of its tree and the positions of the atoms. -/
theorem build_eq (logic : String) :
    build logic =
      (Tree.build logic).map fun t => ⟨t.nodes, (atomPositions 0 t.root.nodes).toArray⟩ := by
  rw [build, Tree.build]
  split
  · rfl
  · rw [places (words logic) .root empty]
    cases Logic.build (words logic) with
    | error e => rfl
    | ok f => simp [Except.map, extend, empty, Formula.nodes]

end Arena

end RuleVerdict.Logic
