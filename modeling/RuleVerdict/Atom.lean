import RuleVerdict.AtomId
import RuleVerdict.Matcher
import RuleVerdict.Record

/-!
# Atoms

An atom is a checked rule on one field: its operator is known, its id assigned, and its literal
prepared once and for all, with the standard reader of literals unless another one is given.

* `judge_eq`: judging a record is judging the field under the atom's path.
-/

namespace RuleVerdict

/-- A rule on one field of a record. The matcher is the prepared form of operator and literal. -/
structure Atom (R : LiteralReader := .standard) where
  id : AtomId
  key : String
  op : Operator
  literal : Option Value
  message : String
  matcher : Matcher := Matcher.prepare R op literal
  matcher_eq : matcher = Matcher.prepare R op literal := by rfl

namespace Atom

variable {R : LiteralReader}

/-- Whether the field fits. -/
def fits (a : Atom R) (f : Field) : Bool := a.matcher.fits f

/-- Whether the field of a record under the atom's path fits. -/
def judge (a : Atom R) (r : Record) : Bool := a.fits (r.field a.key)

/-- How the atom is shown. -/
def shown (a : Atom R) : String :=
  "#" ++ a.id.text ++ ": " ++ a.key ++ " " ++ a.op.symbol ++
    match a.literal with
    | none => ""
    | some v => " " ++ v.shown

theorem fits_eq (a : Atom R) (f : Field) :
    a.fits f = (Matcher.prepare R a.op a.literal).fits f := by
  rw [fits, a.matcher_eq]

theorem judge_eq (a : Atom R) (r : Record) :
    a.judge r = (Matcher.prepare R a.op a.literal).fits (r.field a.key) := fits_eq a _

/-- Two atoms with the same parts are the same. -/
theorem ext_parts {a b : Atom R} (hid : a.id = b.id) (hkey : a.key = b.key) (hop : a.op = b.op)
    (hliteral : a.literal = b.literal) (hmessage : a.message = b.message) : a = b := by
  have ha := a.matcher_eq
  have hb := b.matcher_eq
  cases a
  cases b
  simp_all

end Atom

end RuleVerdict
