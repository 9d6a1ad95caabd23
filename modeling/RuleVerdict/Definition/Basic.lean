import RuleVerdict.AtomId
import RuleVerdict.Value

/-!
# Rule definitions

What a rule author writes down: atoms with their operators still as text, groups of atoms with a
logic text, and collections of groups. Nothing in a definition has been checked.
-/

namespace RuleVerdict

/-- How the reasons of a failure are found when a group has a logic: from the leaves marked
beforehand, or from all paths along which the formula is not what it should be. -/
inductive BlameMode where
  | firstDisjunct
  | exhaustive
  deriving DecidableEq

/-- The written name of a blame mode. -/
def BlameMode.name : BlameMode → String
  | .firstDisjunct => "first_disjunct"
  | .exhaustive => "exhaustive"

/-- The blame mode with the given name. -/
def BlameMode.ofName? (s : String) : Option BlameMode :=
  if s = BlameMode.firstDisjunct.name then some .firstDisjunct
  else if s = BlameMode.exhaustive.name then some .exhaustive
  else none

theorem BlameMode.ofName?_name (m : BlameMode) : ofName? m.name = some m := by
  cases m <;> decide +kernel

/-- An atom as it is written: an operator, a path, and perhaps a literal, an id and a message. -/
structure AtomDefinition where
  op : String
  key : String
  literal : Option Value
  id : Option AtomId
  message : String
  deriving DecidableEq

/-- A group as it is written. Without a logic every atom has to fit. -/
structure GroupDefinition where
  rules : List AtomDefinition
  logic : String
  name : Option String
  message : Option String
  value : Option Value
  blame : BlameMode
  deriving DecidableEq

/-- A collection as it is written. -/
structure CollectionDefinition where
  name : String
  message : String
  groups : List GroupDefinition
  deriving DecidableEq

/-- The fields of an atom in order. -/
def AtomDefinition.fieldNames : List String := ["op", "key", "val", "id", "msg"]

/-- The fields of a group in order. -/
def GroupDefinition.fieldNames : List String :=
  ["rules", "logic", "name", "msg", "value", "blame_mode"]

/-- The fields of a collection in order. -/
def CollectionDefinition.fieldNames : List String := ["name", "msg", "groups"]

end RuleVerdict
