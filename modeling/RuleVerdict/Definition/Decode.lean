import RuleVerdict.Definition.Basic
import RuleVerdict.Definition.Scalar
import RuleVerdict.Json.Reader

/-!
# Definitions from JSON

A definition is an object with named fields, of which unknown ones do not count and known ones may
stand there once, or an array of its fields in order, of which those that may be missing may be
left out at the end. Null stands for a missing value only where a value may be missing.
-/

namespace RuleVerdict

namespace Json

/-- The only member of an object with the given name, if there is at most one. -/
def member? (name : String) (ms : List (Option String × Json)) : Option (Option Json) :=
  match ms.filter fun m => m.1 == some name with
  | [] => some none
  | [m] => some (some m.2)
  | _ => none

/-- The fields of a definition in order, from an object or an array. -/
def fields? (names : List String) : Json → Option (List (Option Json))
  | .array vs =>
    if vs.length ≤ names.length then
      some (vs.map some ++ List.replicate (names.length - vs.length) none)
    else none
  | .object ms => if ms.all fun m => m.1.isSome then names.mapM fun n => member? n ms else none
  | _ => none

/-- A value that may be null. -/
def orNull {α : Type} (f : Json → Option α) : Json → Option (Option α)
  | .null => some none
  | v => (f v).map some

/-- An array whose items are all of a kind. -/
def list? {α : Type} (f : Json → Option α) : Json → Option (List α)
  | .array vs => vs.mapM f
  | _ => none

/-- A field that has to be there. -/
def required {α : Type} (f : Json → Option α) (field : Option Json) : Option α := field.bind f

/-- A field that has a value of its own when it is missing. -/
def optional {α : Type} (default : α) (f : Json → Option α) : Option Json → Option α
  | none => some default
  | some v => f v

end Json

/-- An id is an integer written without point and exponent. -/
def AtomId.ofJson? : Json → Option AtomId
  | .number n =>
    match n.toInt? with
    | some (.ofNat i) => AtomId.ofNat? i
    | _ => none
  | _ => none

/-- A blame mode is its name, or an object whose only member has that name and is null. -/
def BlameMode.ofJson? : Json → Option BlameMode
  | .text s => s.bind ofName?
  | .object [(some s, .null)] => ofName? s
  | _ => none

/-! Definitions are decoded with any reader of JSON. -/

section

variable (R : JsonReader)

/-- The atom that a JSON value defines. -/
def AtomDefinition.ofJsonWith? (v : Json) : Option AtomDefinition :=
  match v.fields? fieldNames with
  | some [op, key, literal, id, message] => do
    let op ← Json.required Json.text? op
    let key ← Json.required Json.text? key
    let literal ← Json.optional none (Json.orNull (Value.ofJsonWith? R)) literal
    let id ← Json.optional none (Json.orNull AtomId.ofJson?) id
    let message ← Json.optional "" Json.text? message
    return ⟨op, key, literal, id, message⟩
  | _ => none

/-- The group that a JSON value defines. -/
def GroupDefinition.ofJsonWith? (v : Json) : Option GroupDefinition :=
  match v.fields? fieldNames with
  | some [rules, logic, name, message, value, blame] => do
    let rules ← Json.required (Json.list? (AtomDefinition.ofJsonWith? R)) rules
    let logic ← Json.optional "" Json.text? logic
    let name ← Json.optional none (Json.orNull Json.text?) name
    let message ← Json.optional none (Json.orNull Json.text?) message
    let value ← Json.optional none (Json.orNull (Value.ofJsonWith? R)) value
    let blame ← Json.optional .firstDisjunct BlameMode.ofJson? blame
    return ⟨rules, logic, name, message, value, blame⟩
  | _ => none

/-- The collection that a JSON value defines. -/
def CollectionDefinition.ofJsonWith? (v : Json) : Option CollectionDefinition :=
  match v.fields? fieldNames with
  | some [name, message, groups] => do
    let name ← Json.optional "" Json.text? name
    let message ← Json.optional "" Json.text? message
    let groups ← Json.required (Json.list? (GroupDefinition.ofJsonWith? R)) groups
    return ⟨name, message, groups⟩
  | _ => none

/-! ## From text -/

/-- The value that a JSON text writes. -/
def Value.parseWith? (s : String) : Option Value := (R.read? s).bind (ofJsonWith? R)

/-- The atom that a JSON text defines. -/
def AtomDefinition.parseWith? (s : String) : Option AtomDefinition :=
  (R.read? s).bind (ofJsonWith? R)

/-- The group that a JSON text defines. -/
def GroupDefinition.parseWith? (s : String) : Option GroupDefinition :=
  (R.read? s).bind (ofJsonWith? R)

/-- The collection that a JSON text defines. -/
def CollectionDefinition.parseWith? (s : String) : Option CollectionDefinition :=
  (R.read? s).bind (ofJsonWith? R)

end

/-! The same with the reader in use. -/

/-- The value that a JSON text writes. -/
def Value.parse? : String → Option Value := parseWith? .standard

/-- The blame mode that a JSON text writes. -/
def BlameMode.parse? (s : String) : Option BlameMode := (Json.read? s).bind ofJson?

/-- The atom that a JSON text defines. -/
def AtomDefinition.parse? : String → Option AtomDefinition := parseWith? .standard

/-- The atoms that a JSON text defines in an array. -/
def AtomDefinition.parseList? (s : String) : Option (List AtomDefinition) :=
  (Json.read? s).bind (Json.list? (ofJsonWith? .standard))

/-- The group that a JSON text defines. -/
def GroupDefinition.parse? : String → Option GroupDefinition := parseWith? .standard

/-- The collection that a JSON text defines. -/
def CollectionDefinition.parse? : String → Option CollectionDefinition := parseWith? .standard

end RuleVerdict
