import RuleVerdict.Group.Compile
import RuleVerdict.Group.Verdict

/-!
# Collections

A collection tries its groups in order, and the first one that a record fits wins. Every group in
it has a name: one that was given none, or an empty one, is named after its place, counted from
one.

* `fit?_eq_head?`: the first group that fits is the first of all that fit.
-/

namespace RuleVerdict

/-- Groups in order, with a name and a message of their own. -/
structure Collection where
  name : String
  message : String
  groups : List Group

namespace Collection

/-- The group with a name: its own, unless that is missing or empty, or else its place. -/
def nameGroup (place : Nat) (g : Group) : Group :=
  match g.name with
  | none => { g with name := some (Text.numeral place) }
  | some n => if n = "" then { g with name := some (Text.numeral place) } else g

/-- Names groups, the first of which has the given place. -/
def nameFrom (place : Nat) : List Group → List Group
  | [] => []
  | g :: gs => nameGroup place g :: nameFrom (place + 1) gs

/-- A collection of groups, each with a name. -/
def ofGroups (name message : String) (groups : List Group) : Collection :=
  ⟨name, message, nameFrom 1 groups⟩

/-- The first group that a record fits. -/
def fit? (c : Collection) (r : Record) : Option Group := c.groups.find? fun g => g.fits r

/-- The names of all groups that a record fits, in order. -/
def fitAll (c : Collection) (r : Record) : List String :=
  (c.groups.filter fun g => g.fits r).filterMap Group.name

/-- The value of the first group that a record fits. -/
def fitValue (c : Collection) (r : Record) : Option Value := (c.fit? r).bind Group.value

/-- The value of the first group that a record fits, if it is an integer. -/
def fitInt (c : Collection) (r : Record) : Option Int64 := (c.fitValue r).bind Value.int?

/-- The value of the first group that a record fits, if it is a binary number. -/
def fitFloat (c : Collection) (r : Record) : Option Binary64 := (c.fitValue r).bind Value.float?

/-- The value of the first group that a record fits, if it is a truth value. -/
def fitBool (c : Collection) (r : Record) : Option Bool := (c.fitValue r).bind Value.bool?

/-- The value of the first group that a record fits, if it is a text. -/
def fitText (c : Collection) (r : Record) : Option String := (c.fitValue r).bind Value.text?

theorem fit?_eq_head? (c : Collection) (r : Record) :
    c.fit? r = (c.groups.filter fun g => g.fits r).head? := by
  simp [fit?, List.head?_filter]

end Collection

/-- Compiles groups in order up to the first fault. -/
def compileAll : List GroupDefinition → Except CompileError (List Group)
  | [] => .ok []
  | d :: ds =>
    match d.compile with
    | .error e => .error e
    | .ok g => (compileAll ds).map (g :: ·)

/-- Compiles a collection. -/
def CollectionDefinition.compile (d : CollectionDefinition) : Except CompileError Collection :=
  (compileAll d.groups).map (.ofGroups d.name d.message)

end RuleVerdict
