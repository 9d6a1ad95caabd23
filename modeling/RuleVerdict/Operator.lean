/-!
# Operators

An operator says how an atom judges a field. Each has a symbol and a word, and is found by either.

* `ofSpelling?_symbol`, `ofSpelling?_word`: every operator is found by its symbol and by its word.
-/

namespace RuleVerdict

/-- The comparisons of two values. -/
inductive Comparison where
  | eq
  | ne
  | gt
  | ge
  | lt
  | le
  deriving DecidableEq

/-- How an atom judges a field. -/
inductive Operator where
  | compare (c : Comparison)
  | isIn
  | notIn
  | pattern
  | absent
  | present
  | between
  | intersect
  deriving DecidableEq

namespace Operator

/-- All operators in order. -/
def all : List Operator := [
  .compare .eq, .compare .ne, .compare .gt, .compare .ge, .compare .lt, .compare .le,
  .isIn, .notIn, .pattern, .absent, .present, .between, .intersect]

/-- The spelling in symbols. -/
def symbol : Operator → String
  | .compare .eq => "="
  | .compare .ne => "!="
  | .compare .gt => ">"
  | .compare .ge => ">="
  | .compare .lt => "<"
  | .compare .le => "<="
  | .isIn => "@"
  | .notIn => "!@"
  | .pattern => "^$"
  | .absent => "0"
  | .present => "1"
  | .between => "<<"
  | .intersect => "@@"

/-- The spelling in letters. -/
def word : Operator → String
  | .compare .eq => "eq"
  | .compare .ne => "neq"
  | .compare .gt => "gt"
  | .compare .ge => "gte"
  | .compare .lt => "lt"
  | .compare .le => "lte"
  | .isIn => "in"
  | .notIn => "nin"
  | .pattern => "regex"
  | .absent => "empty"
  | .present => "nempty"
  | .between => "between"
  | .intersect => "intersect"

/-- The operator with the given spelling. -/
def ofSpelling? (s : String) : Option Operator :=
  all.find? fun op => op.symbol == s || op.word == s

/-- The place of the operator among all. -/
def index (op : Operator) : Nat := all.idxOf op

theorem mem_all (op : Operator) : op ∈ all := by
  cases op with
  | compare c => cases c <;> decide
  | _ => decide

theorem ofSpelling?_symbol (op : Operator) : ofSpelling? op.symbol = some op := by
  cases op with
  | compare c => cases c <;> decide +kernel
  | _ => decide +kernel

theorem ofSpelling?_word (op : Operator) : ofSpelling? op.word = some op := by
  cases op with
  | compare c => cases c <;> decide +kernel
  | _ => decide +kernel

end Operator

end RuleVerdict
