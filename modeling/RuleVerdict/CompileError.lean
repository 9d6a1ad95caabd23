import RuleVerdict.Logic.Shape
import RuleVerdict.Logic.Tree

/-!
# Compile errors

What can be wrong with a group: two atoms with one id, an operator that there is not, a word that
is no token, a logic that is not well formed, or a reference to an atom that the group does not
have.
-/

namespace RuleVerdict

/-- Why a logic is not well formed: by the shape of its tokens, or when its tree is built. -/
inductive LogicFault where
  | shape (e : Logic.ShapeError)
  | tree (e : Logic.TreeError)
  deriving DecidableEq

/-- The wording of a fault. -/
def LogicFault.message : LogicFault → String
  | .shape e => e.message
  | .tree e => e.message

/-- What is wrong with a group. -/
inductive CompileError where
  | unknownOperator (id : AtomId) (op : String)
  | duplicateAtomId (id : AtomId)
  | invalidToken (word : String)
  | malformedLogic (logic : String) (fault : LogicFault)
  | undefinedAtom (id : AtomId)
  deriving DecidableEq

/-- The wording of a compile error. -/
def CompileError.message : CompileError → String
  | .unknownOperator id op => "unknown operator '" ++ op ++ "' on atom " ++ id.text
  | .duplicateAtomId id => "duplicate atom id " ++ id.text
  | .invalidToken word => "invalid token '" ++ word ++ "' in logic expression"
  | .malformedLogic logic fault => "malformed logic '" ++ logic ++ "': " ++ fault.message
  | .undefinedAtom id => "logic references undefined atom " ++ id.text

end RuleVerdict
