/-!
# Truth values as text
-/

namespace RuleVerdict.Text

/-- The word for a truth value. -/
def truth (b : Bool) : String := if b then "true" else "false"

end RuleVerdict.Text
