import RuleVerdict.AtomId
import RuleVerdict.Text.Truth

/-!
# Formulas and their marks

A logic text is read into a formula over atom ids. Brackets leave no trace, and a chain of `and`
or `or` is one node with all its operands. Every inner node keeps the words it was read from.

Two marks follow from where a node stands. It *should* be true or false for the whole formula to
be true: a negation turns that around for what is below it. And it is *blamed* or not when it is
not what it should be: of the operands of an `or` only the first one ever is.

* `nodes`: the nodes in preorder, each with its marks and the positions of its children.
* `leaves`: the atoms from left to right, each with its marks.
* `length_nodes`: there is one entry for each node.
-/

namespace RuleVerdict.Logic

/-- A formula over atom ids; inner nodes carry the text they stand for. -/
inductive Formula where
  | atom (id : AtomId)
  | negation (text : String) (operand : Formula)
  | conjunction (text : String) (operands : List Formula)
  | disjunction (text : String) (operands : List Formula)
  deriving Inhabited

/-- What a node should be worth, and whether it is blamed when it is not. -/
structure Mark where
  should : Bool
  blamed : Bool
  deriving DecidableEq

namespace Mark

/-- The mark of the whole formula. -/
def root : Mark := ⟨true, true⟩

/-- The mark below a negation. -/
def negate (m : Mark) : Mark := ⟨!m.should, m.blamed⟩

/-- The mark of the later operands of an `or`. -/
def excuse (m : Mark) : Mark := ⟨m.should, false⟩

end Mark

/-- What a node is. -/
inductive NodeKind where
  | atom (id : AtomId)
  | conjunction
  | disjunction
  | negation
  deriving DecidableEq

/-- How a node is shown. -/
def NodeKind.label : NodeKind → String
  | .atom id => "#" ++ id.text
  | .conjunction => "and"
  | .disjunction => "or"
  | .negation => "not"

/-- A node of a formula; its children are named by their positions in the list of nodes. -/
structure Node where
  kind : NodeKind
  text : String
  children : List Nat
  mark : Mark
  deriving DecidableEq

/-- An occurrence of an atom in a formula. -/
structure Leaf where
  id : AtomId
  mark : Mark
  deriving DecidableEq

namespace Formula

/-- The text that the formula stands for. -/
def text : Formula → String
  | .atom id => id.text
  | .negation text _ => text
  | .conjunction text _ => text
  | .disjunction text _ => text

mutual

/-- The number of nodes. -/
def size : Formula → Nat
  | .atom _ => 1
  | .negation _ f => 1 + f.size
  | .conjunction _ fs => 1 + sizeList fs
  | .disjunction _ fs => 1 + sizeList fs

/-- The number of nodes of some formulas. -/
def sizeList : List Formula → Nat
  | [] => 0
  | f :: fs => f.size + sizeList fs

end

/-- The positions of formulas whose nodes are listed one after the other from `start` on. -/
def positions (start : Nat) : List Formula → List Nat
  | [] => []
  | f :: fs => start :: positions (start + f.size) fs

mutual

/-- The nodes in preorder, the first of which has the position `start`. -/
def nodesAt (start : Nat) (m : Mark) : Formula → List Node
  | .atom id => [⟨.atom id, id.text, [], m⟩]
  | .negation text f => ⟨.negation, text, [start + 1], m⟩ :: nodesAt (start + 1) m.negate f
  | .conjunction text fs =>
    ⟨.conjunction, text, positions (start + 1) fs, m⟩ :: nodesEach (start + 1) m fs
  | .disjunction text fs =>
    ⟨.disjunction, text, positions (start + 1) fs, m⟩ :: nodesFirst (start + 1) m fs

/-- The nodes of formulas that all have the same mark. -/
def nodesEach (start : Nat) (m : Mark) : List Formula → List Node
  | [] => []
  | f :: fs => nodesAt start m f ++ nodesEach (start + f.size) m fs

/-- The nodes of formulas of which only the first one keeps its blame. -/
def nodesFirst (start : Nat) (m : Mark) : List Formula → List Node
  | [] => []
  | f :: fs => nodesAt start m f ++ nodesEach (start + f.size) m.excuse fs

end

/-- The nodes in preorder. -/
def nodes (f : Formula) : List Node := f.nodesAt 0 .root

mutual

/-- The atoms from left to right, below a node with the given mark. -/
def leavesAt (m : Mark) : Formula → List Leaf
  | .atom id => [⟨id, m⟩]
  | .negation _ f => leavesAt m.negate f
  | .conjunction _ fs => leavesEach m fs
  | .disjunction _ fs => leavesFirst m fs

/-- The atoms of formulas that all have the same mark. -/
def leavesEach (m : Mark) : List Formula → List Leaf
  | [] => []
  | f :: fs => leavesAt m f ++ leavesEach m fs

/-- The atoms of formulas of which only the first one keeps its blame. -/
def leavesFirst (m : Mark) : List Formula → List Leaf
  | [] => []
  | f :: fs => leavesAt m f ++ leavesEach m.excuse fs

end

/-- The atoms from left to right. -/
def leaves (f : Formula) : List Leaf := f.leavesAt .root

/-! ## Showing a formula -/

/-- The line that shows a node. -/
def line (depth : Nat) (kind : NodeKind) (m : Mark) : String :=
  String.ofList (List.replicate (2 * depth) ' ') ++ kind.label ++ " should=" ++
    Text.truth m.should ++ (if m.blamed then " *" else "") ++ "\n"

mutual

/-- The lines of a formula, indented by depth. -/
def renderAt (depth : Nat) (m : Mark) : Formula → String
  | .atom id => line depth (.atom id) m
  | .negation _ f => line depth .negation m ++ renderAt (depth + 1) m.negate f
  | .conjunction _ fs => line depth .conjunction m ++ renderEach (depth + 1) m fs
  | .disjunction _ fs => line depth .disjunction m ++ renderFirst (depth + 1) m fs

/-- The lines of formulas that all have the same mark. -/
def renderEach (depth : Nat) (m : Mark) : List Formula → String
  | [] => ""
  | f :: fs => renderAt depth m f ++ renderEach depth m fs

/-- The lines of formulas of which only the first one keeps its blame. -/
def renderFirst (depth : Nat) (m : Mark) : List Formula → String
  | [] => ""
  | f :: fs => renderAt depth m f ++ renderEach depth m.excuse fs

end

/-- One line for each node, children below their parent and two spaces to the right of it. -/
def render (f : Formula) : String := f.renderAt 0 .root

/-! ## Sizes -/

mutual

theorem length_nodesAt (start : Nat) (m : Mark) :
    (f : Formula) → (f.nodesAt start m).length = f.size
  | .atom _ => rfl
  | .negation _ f => by
    rw [nodesAt, List.length_cons, length_nodesAt (start + 1) m.negate f, size, Nat.add_comm]
  | .conjunction _ fs => by
    rw [nodesAt, List.length_cons, length_nodesEach (start + 1) m fs, size, Nat.add_comm]
  | .disjunction _ fs => by
    rw [nodesAt, List.length_cons, length_nodesFirst (start + 1) m fs, size, Nat.add_comm]

theorem length_nodesEach (start : Nat) (m : Mark) :
    (fs : List Formula) → (nodesEach start m fs).length = sizeList fs
  | [] => rfl
  | f :: fs => by
    rw [nodesEach, List.length_append, length_nodesAt start m f,
      length_nodesEach (start + f.size) m fs, sizeList]

theorem length_nodesFirst (start : Nat) (m : Mark) :
    (fs : List Formula) → (nodesFirst start m fs).length = sizeList fs
  | [] => rfl
  | f :: fs => by
    rw [nodesFirst, List.length_append, length_nodesAt start m f,
      length_nodesEach (start + f.size) m.excuse fs, sizeList]

end

theorem length_nodes (f : Formula) : f.nodes.length = f.size := length_nodesAt 0 .root f

end Formula

end RuleVerdict.Logic
