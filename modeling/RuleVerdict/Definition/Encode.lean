import RuleVerdict.Definition.Basic
import RuleVerdict.Definition.Scalar

/-!
# Definitions as JSON

Every field of a definition is written, in order; what is missing is written as null.
-/

namespace RuleVerdict

/-- A value, or null. -/
def Json.ofOption {α : Type} (f : α → Json) : Option α → Json
  | none => .null
  | some a => f a

/-- A text. -/
def Json.ofString (s : String) : Json := .text (some s)

/-- An object with the given names and values. -/
def Json.ofFields (names : List String) (vs : List Json) : Json :=
  .object ((names.map some).zip vs)

/-- An id as a JSON number. -/
def AtomId.toJson (id : AtomId) : Json := .number (.natural id.toNat)

/-- A blame mode by its name. -/
def BlameMode.toJson (m : BlameMode) : Json := .ofString m.name

/-- An atom with all its fields. -/
def AtomDefinition.toJson (d : AtomDefinition) : Json :=
  .ofFields fieldNames [
    .ofString d.op,
    .ofString d.key,
    .ofOption Value.toJson d.literal,
    .ofOption AtomId.toJson d.id,
    .ofString d.message]

/-- A group with all its fields. -/
def GroupDefinition.toJson (d : GroupDefinition) : Json :=
  .ofFields fieldNames [
    .array (d.rules.map AtomDefinition.toJson),
    .ofString d.logic,
    .ofOption .ofString d.name,
    .ofOption .ofString d.message,
    .ofOption Value.toJson d.value,
    d.blame.toJson]

/-- A collection with all its fields. -/
def CollectionDefinition.toJson (d : CollectionDefinition) : Json :=
  .ofFields fieldNames [
    .ofString d.name,
    .ofString d.message,
    .array (d.groups.map GroupDefinition.toJson)]

end RuleVerdict
