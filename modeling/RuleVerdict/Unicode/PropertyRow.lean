import RuleVerdict.Text.Pieces
import RuleVerdict.Unicode.CodeSet

/-!
# Rows of property tables

The tables of character properties list sets of code points under their names. A name is in its
normal form: lower case, without spaces, hyphens and underscores. A row writes its set as
stretches, line by line, so that a table is short; the set is built when the row is looked up.
-/

namespace RuleVerdict.Unicode

/-- A set of code points with its names, which single spaces keep apart. -/
structure PropertyRow where
  names : String
  stretches : List String

/-- Whether the row has the name. -/
def PropertyRow.answersTo (row : PropertyRow) (name : String) : Bool :=
  (Text.split ' ' row.names).contains name

/-- Whether the row has one of the names. -/
def PropertyRow.answersToAny (row : PropertyRow) (names : List String) : Bool :=
  names.any row.answersTo

/-- The set of the row. -/
def PropertyRow.set (row : PropertyRow) : CodeSet := .ofStretches row.stretches

/-- The set of the first row with the name. -/
def find? (rows : List PropertyRow) (name : String) : Option CodeSet :=
  (rows.find? fun row => row.answersTo name).map PropertyRow.set

end RuleVerdict.Unicode
