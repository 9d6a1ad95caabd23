import RuleVerdict.Atom
import RuleVerdict.Definition.Basic
import RuleVerdict.Logic.Tree

/-!
# Groups

A group is a checked list of atoms with a logic in normal layout and, if there is one, its tree.
It also carries the name, the message and the value that its author gave it.
-/

namespace RuleVerdict

/-- A checked group of atoms. -/
structure Group where
  name : Option String
  message : String
  value : Option Value
  blame : BlameMode
  atoms : List Atom
  logic : String
  tree : Option Logic.Tree

namespace Group

/-- How the group is shown: by its name and its logic, or by the number of its atoms. -/
def shown (g : Group) : String :=
  let name := g.name.getD "<unnamed>"
  if g.logic = "" then name ++ ": all of " ++ Text.numeral g.atoms.length ++ " atoms"
  else name ++ ": " ++ g.logic

end Group

end RuleVerdict
