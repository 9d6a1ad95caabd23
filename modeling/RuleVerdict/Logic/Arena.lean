import RuleVerdict.Logic.Tree

/-!
# Building the nodes of a tree

The nodes of a tree are pushed onto one array while the words are read, a node before its
operands. Its children are not known at that time: the node is pushed without any, and their
positions are entered when the last operand has been built. The positions of the atoms are noted
in a second array as they come.

* `place_eq`: the nodes are built along the decomposition of the words.
-/

namespace RuleVerdict.Logic

/-- The mark of an operand: the first one has the number 0. -/
def NodeKind.markOf (kind : NodeKind) (k : Nat) (m : Mark) : Mark :=
  match kind with
  | .negation => m.negate
  | .disjunction => ⟨m.should, m.blamed && k == 0⟩
  | _ => m

/-- The nodes built so far, and the positions of the atoms among them. -/
structure Arena where
  nodes : Array Node
  leaves : Array Nat
  deriving DecidableEq

namespace Arena

/-- Before the first node. -/
def empty : Arena := ⟨#[], #[]⟩

/-- Adds an inner node without children. -/
def push (a : Arena) (kind : NodeKind) (text : String) (m : Mark) : Arena :=
  { a with nodes := a.nodes.push ⟨kind, text, [], m⟩ }

/-- Adds an atom and notes its position. -/
def pushLeaf (a : Arena) (id : AtomId) (m : Mark) : Arena :=
  ⟨a.nodes.push ⟨.atom id, id.text, [], m⟩, a.leaves.push a.nodes.size⟩

/-- Enters the children of the node at position `p`. -/
def adopt (a : Arena) (p : Nat) (children : List Nat) : Arena :=
  { a with nodes := a.nodes.modify p fun n => { n with children := children } }

/-- Builds the parts of a node from left to right, the first of which has the number `k`, and
gives their positions. -/
def placeParts {α : Type} (place : α → Mark → Arena → Except TreeError (Nat × Arena))
    (kind : NodeKind) (m : Mark) (k : Nat) : List α → Arena → Except TreeError (List Nat × Arena)
  | [], a => .ok ([], a)
  | p :: ps, a => do
    let (c, a) ← place p (kind.markOf k m) a
    let (cs, a) ← placeParts place kind m (k + 1) ps a
    return (c :: cs, a)

/-- Builds a node and below it its parts, and gives its position. -/
def placeNode {α : Type} (place : α → Mark → Arena → Except TreeError (Nat × Arena))
    (kind : NodeKind) (text : String) (parts : List α) (m : Mark) (a : Arena) :
    Except TreeError (Nat × Arena) := do
  let (cs, b) ← placeParts place kind m 0 parts (a.push kind text m)
  return (a.nodes.size, b.adopt a.nodes.size cs)

/-- Builds the nodes of a word list behind those that are there, the first with the mark `m`, and
gives its position. -/
def place (ws : List String) (m : Mark) (a : Arena) : Except TreeError (Nat × Arena) :=
  match _h : decompose ws with
  | .error e => .error e
  | .ok (.brackets inner) => place inner m a
  | .ok (.disjunction parts) =>
    placeNode (fun p => place p.1) .disjunction (Text.join ' ' ws) parts.attach m a
  | .ok (.conjunction parts) =>
    placeNode (fun p => place p.1) .conjunction (Text.join ' ' ws) parts.attach m a
  | .ok (.negation rest) =>
    placeNode (fun p => place p.1) .negation (Text.join ' ' ws) [rest].attach m a
  | .ok (.atom id) => .ok (a.nodes.size, a.pushLeaf id m)
termination_by ws.length
decreasing_by
  · exact length_lt_of_decompose _h (by simp [Decomposition.parts])
  · exact length_lt_of_decompose _h (by simpa [Decomposition.parts] using p.2)
  · exact length_lt_of_decompose _h (by simpa [Decomposition.parts] using p.2)
  · exact length_lt_of_decompose _h (by simpa [Decomposition.parts] using p.2)

/-- Builds the nodes of a logic text in normal layout. -/
def build (logic : String) : Except TreeError Arena :=
  if nestingLimit < nesting (words logic) then .error .tooDeep
  else (place (words logic) .root empty).map Prod.snd

theorem placeParts_map {α β : Type} (g : β → α)
    (place : α → Mark → Arena → Except TreeError (Nat × Arena)) (kind : NodeKind) (m : Mark)
    (k : Nat) (ps : List β) (a : Arena) :
    placeParts (fun p => place (g p)) kind m k ps a = placeParts place kind m k (ps.map g) a := by
  induction ps generalizing k a with
  | nil => rfl
  | cons p ps ih =>
    simp only [placeParts, List.map_cons]
    cases place (g p) (kind.markOf k m) a with
    | error e => rfl
    | ok r => exact congrArg (· >>= fun s => .ok (r.1 :: s.1, s.2)) (ih (k + 1) r.2)

theorem placeNode_attach (place : List String → Mark → Arena → Except TreeError (Nat × Arena))
    (kind : NodeKind) (text : String) (parts : List (List String)) (m : Mark) (a : Arena) :
    placeNode (fun p => place p.1) kind text parts.attach m a =
      placeNode place kind text parts m a := by
  rw [placeNode, placeParts_map Subtype.val place, List.attach_map_subtype_val]
  rfl

/-- The nodes are built along the decomposition of the words. -/
theorem place_eq (ws : List String) (m : Mark) (a : Arena) :
    place ws m a =
      match decompose ws with
      | .error e => .error e
      | .ok (.brackets inner) => place inner m a
      | .ok (.disjunction parts) => placeNode place .disjunction (Text.join ' ' ws) parts m a
      | .ok (.conjunction parts) => placeNode place .conjunction (Text.join ' ' ws) parts m a
      | .ok (.negation rest) => placeNode place .negation (Text.join ' ' ws) [rest] m a
      | .ok (.atom id) => .ok (a.nodes.size, a.pushLeaf id m) := by
  rw [place]
  split
  · next h => rw [h]
  · next h => rw [h]
  · next h =>
    rw [h]
    exact placeNode_attach place ..
  · next h =>
    rw [h]
    exact placeNode_attach place ..
  · next h =>
    rw [h]
    exact placeNode_attach place ..
  · next h => rw [h]

end Arena

end RuleVerdict.Logic
