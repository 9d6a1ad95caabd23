import RuleVerdict.Logic.Tree
import RuleVerdict.Logic.Blame

/-!
# Evaluating the nodes of a tree

A tree is evaluated on its nodes. Children stand after their parent, so one pass from the last
node to the first finds the value of each node from the values of its children. The atoms at fault
are found from the root on, with a stack of the nodes that are still to be visited.

* `size_nodeValues`: there is one value for each node.
-/

namespace RuleVerdict.Logic

/-- The value of a node, given the values of the nodes behind it. -/
def Node.value (truth : AtomId → Bool) (values : Array Bool) (n : Node) : Bool :=
  match n.kind with
  | .atom id => truth id
  | .conjunction => n.children.all fun c => values[c]?.getD false
  | .disjunction => n.children.any fun c => values[c]?.getD false
  | .negation => n.children.head?.any fun c => !values[c]?.getD false

/-- Enters the values of the first `k` nodes, the last of them first. -/
def fillValues (truth : AtomId → Bool) (nodes : Array Node) : Nat → Array Bool → Array Bool
  | 0, values => values
  | k + 1, values =>
    match nodes[k]? with
    | none => fillValues truth nodes k values
    | some n => fillValues truth nodes k (values.setIfInBounds k (n.value truth values))

/-- The values of all nodes. -/
def nodeValues (truth : AtomId → Bool) (nodes : Array Node) : Array Bool :=
  fillValues truth nodes nodes.size (Array.replicate nodes.size false)

/-- Visits the nodes on a stack, and below each that is not what it should be its children, the
last one first; `found` are the atoms that were reached before. No node is reached twice, so
`fuel` for as many visits as there are nodes is enough. -/
def visit (nodes : Array Node) (values : Array Bool) :
    Nat → List Nat → List AtomId → List AtomId
  | _, [], found => found
  | 0, _ :: _, found => found
  | fuel + 1, p :: stack, found =>
    match nodes[p]? with
    | none => visit nodes values fuel stack found
    | some n =>
      if values[p]? = some n.mark.should then visit nodes values fuel stack found
      else
        match n.kind with
        | .atom id => visit nodes values fuel stack (id :: found)
        | _ => visit nodes values fuel (n.children.reverse ++ stack) found

namespace Tree

/-- The values of the nodes under an assignment. -/
def values (truth : AtomId → Bool) (t : Tree) : Array Bool := nodeValues truth t.nodes

/-- The atoms of the blamed leaves that are not what they should be. -/
def markedFaults (truth : AtomId → Bool) (t : Tree) : List AtomId := t.root.markedFaults truth

/-- The atoms reached from the root through nodes that are not what they should be. -/
def divergingFaults (truth : AtomId → Bool) (t : Tree) : List AtomId :=
  visit t.nodes (t.values truth) t.nodes.size [0] []

end Tree

theorem size_fillValues (truth : AtomId → Bool) (nodes : Array Node) (k : Nat)
    (values : Array Bool) : (fillValues truth nodes k values).size = values.size := by
  induction k generalizing values with
  | zero => rfl
  | succ k ih =>
    unfold fillValues
    split
    · exact ih values
    · rw [ih, Array.size_setIfInBounds]

theorem size_nodeValues (truth : AtomId → Bool) (nodes : Array Node) :
    (nodeValues truth nodes).size = nodes.size := by
  rw [nodeValues, size_fillValues, Array.size_replicate]

end RuleVerdict.Logic
