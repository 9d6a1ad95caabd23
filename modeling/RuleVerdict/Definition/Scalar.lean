import RuleVerdict.Json.Reader
import RuleVerdict.Json.Writer
import RuleVerdict.Record

/-!
# Values and records from JSON

A JSON number becomes an integer if it is written as one and fits in 64 bits, and else the binary
number that the reader takes it for; where there is none, it is no value. Texts and truth values are
values as they are, all else is none. A literal is found by trying the kinds of value one after the
other, a field by the kind of the JSON value it stands in. In a record, objects become nested
records, null is left out and an array is something that no comparison accepts. Of members with one
name the last counts.

* `Value.ofJsonWith?_number`, `Value.ofJsonWith?_text`: what the trial of all kinds comes to.
* `Value.ofJsonWith?_toJson_int`: an integer is read back as it was written.
-/

namespace RuleVerdict

variable (R : JsonReader)

/-- The integer of 64 bits with the given value, if there is one. -/
def int64? (i : Int) : Option Int64 :=
  if -9223372036854775808 ≤ i ∧ i ≤ 9223372036854775807 then some (Int64.ofInt i) else none

namespace Json

/-- An integer of 64 bits. -/
def int64? : Json → Option Int64
  | .number n => n.toInt?.bind RuleVerdict.int64?
  | _ => none

/-- A binary number; an integer is taken for one as well. -/
def binary64? : Json → Option Binary64
  | .number n => R.number? n
  | _ => none

/-- A truth value. -/
def bool? : Json → Option Bool
  | .bool b => some b
  | _ => none

/-- A text. -/
def text? : Json → Option String
  | .text s => s
  | _ => none

end Json

namespace Value

/-- The value of a literal: the first kind of value that the JSON value can be. -/
def ofJsonWith? (v : Json) : Option Value :=
  (v.int64?.map .int).or <| ((v.binary64? R).map .float).or <| (v.bool?.map .bool).or <|
    v.text?.map .text

/-- The value of a number in a record: an integer if it is one of 64 bits, and else binary. -/
def ofNumberWith? (n : JsonNumber) : Option Value :=
  match n.toInt?.bind int64? with
  | some i => some (.int i)
  | none => (R.number? n).map .float

/-- The value of a literal, with the reader in use. -/
def ofJson? : Json → Option Value := ofJsonWith? .standard

theorem ofJsonWith?_number (n : JsonNumber) : ofJsonWith? R (.number n) = ofNumberWith? R n := by
  simp only [ofJsonWith?, ofNumberWith?, Json.int64?, Json.binary64?, Json.bool?, Json.text?,
    Option.map_none, Option.or_none]
  cases n.toInt?.bind int64? <;> rfl

theorem ofJsonWith?_text (s : Option String) : ofJsonWith? R (.text s) = s.map .text := rfl

/-- The JSON scalar of a value. -/
def toJson : Value → Json
  | .int i => .number (.integer i.toInt)
  | .float x => if x.isFinite then .number (.ofBinary64 x) else .null
  | .bool b => .bool b
  | .text s => .text (some s)

theorem int64?_toInt (i : Int64) : int64? i.toInt = some i := by
  have h1 := i.le_toInt
  have h2 := i.toInt_lt
  have h : -9223372036854775808 ≤ i.toInt ∧ i.toInt ≤ 9223372036854775807 := by omega
  simp [int64?, h]

theorem ofJsonWith?_toJson_int (i : Int64) :
    ofJsonWith? R (toJson (.int i)) = some (.int i) := by
  simp [toJson, ofJsonWith?_number, ofNumberWith?, JsonNumber.toInt?_integer, int64?_toInt]

end Value

mutual

/-- The entry of a JSON value; null is none. -/
def Entry.ofJsonWith? : Json → Option Entry
  | .null => none
  | .bool b => some (.value (.bool b))
  | .number n => (Value.ofNumberWith? R n).map .value
  | .text s => s.map fun s => .value (.text s)
  | .array _ => some .unsupported
  | .object ms => some (.nested (Entry.ofMembersWith ms))

/-- The entries of the members of an object; a later member of the same name counts. -/
def Entry.ofMembersWith : List (Option String × Json) → List (String × Entry)
  | [] => []
  | (none, _) :: ms => Entry.ofMembersWith ms
  | (some name, v) :: ms =>
    if ms.any fun m => m.1 == some name then Entry.ofMembersWith ms
    else
      match Entry.ofJsonWith? v with
      | none => Entry.ofMembersWith ms
      | some e => (name, e) :: Entry.ofMembersWith ms

end

/-- The record of a JSON value; only an object has fields. -/
def Record.ofJsonWith : Json → Record
  | .object ms => ⟨Entry.ofMembersWith R ms⟩
  | _ => .empty

/-- The record of a JSON value, with the reader in use. -/
def Record.ofJson : Json → Record := ofJsonWith .standard

end RuleVerdict
