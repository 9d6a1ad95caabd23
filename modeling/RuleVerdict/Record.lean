import RuleVerdict.Json.Basic
import RuleVerdict.Text.Pieces
import RuleVerdict.Value

/-!
# Records

A record holds values under paths. A path is a row of names with dots between them, and the values
with a common first name form a record of their own. A place may also hold something that no
comparison accepts. Writing a value under a path replaces whatever stood in its way.

* `get?_insert_self`: what was written last under a path is found there.
-/

namespace RuleVerdict

/-- What a record holds under a name. -/
inductive Entry where
  | value (v : Value)
  | nested (members : List (String × Entry))
  | unsupported
  deriving Inhabited

/-- A record: entries by name, each name once. -/
structure Record where
  members : List (String × Entry)
  deriving Inhabited

namespace Record

/-- The record that holds nothing. -/
def empty : Record := ⟨[]⟩

/-- The names of a path. -/
def segments (path : String) : List String := Text.split '.' path

/-- The entry under a name. -/
def entryAt (name : String) : List (String × Entry) → Option Entry
  | [] => none
  | (n, e) :: ms => if n = name then some e else entryAt name ms

/-- Puts an entry under a name, in place of the one that stands there. -/
def put (name : String) (e : Entry) : List (String × Entry) → List (String × Entry)
  | [] => [(name, e)]
  | (n, old) :: ms => if n = name then (name, e) :: ms else (n, old) :: put name e ms

/-- The entries below an entry. -/
def membersOf : Option Entry → List (String × Entry)
  | some (.nested ms) => ms
  | _ => []

/-- The entry at the end of a path. -/
def lookup (path : List String) (ms : List (String × Entry)) : Option Entry :=
  match path with
  | [] => none
  | [name] => entryAt name ms
  | name :: rest =>
    match entryAt name ms with
    | some (.nested inner) => lookup rest inner
    | _ => none

/-- Writes a value at the end of a path. -/
def write (path : List String) (v : Value) (ms : List (String × Entry)) : List (String × Entry) :=
  match path with
  | [] => ms
  | [name] => put name (.value v) ms
  | name :: rest => put name (.nested (write rest v (membersOf (entryAt name ms)))) ms

/-- The record with a value written under a path. -/
def insert (r : Record) (path : String) (v : Value) : Record :=
  ⟨write (segments path) v r.members⟩

/-- The value under a path. -/
def get? (r : Record) (path : String) : Option Value :=
  match lookup (segments path) r.members with
  | some (.value v) => some v
  | _ => none

/-- What an atom finds under a path. -/
def field (r : Record) (path : String) : Field :=
  match lookup (segments path) r.members with
  | none => .absent
  | some (.value v) => v.field
  | some (.nested _) => .unsupported
  | some .unsupported => .unsupported

theorem entryAt_put_self (name : String) (e : Entry) (ms : List (String × Entry)) :
    entryAt name (put name e ms) = some e := by
  induction ms with
  | nil => simp [put, entryAt]
  | cons m ms ih =>
    unfold put
    split <;> simp_all [entryAt]

theorem entryAt_put_of_ne {a b : String} (h : a ≠ b) (e : Entry) (ms : List (String × Entry)) :
    entryAt a (put b e ms) = entryAt a ms := by
  induction ms with
  | nil => simp [put, entryAt, h.symm]
  | cons m ms ih =>
    unfold put
    split
    · next hm => simp [entryAt, hm, h.symm]
    · simp [entryAt, ih]

theorem lookup_write_self {path : List String} (h : path ≠ []) (v : Value)
    (ms : List (String × Entry)) : lookup path (write path v ms) = some (.value v) := by
  induction path generalizing ms with
  | nil => exact absurd rfl h
  | cons name rest ih =>
    cases rest with
    | nil => simp [write, lookup, entryAt_put_self]
    | cons next rest =>
      rw [write, lookup, entryAt_put_self]
      · exact ih (by simp) _
      · simp
      · simp

theorem segments_ne_nil (path : String) : segments path ≠ [] := by
  simp [segments, Text.split, Text.pieces_ne_nil]

/-- What was written last under a path is found there. -/
theorem get?_insert_self (r : Record) (path : String) (v : Value) :
    (r.insert path v).get? path = some v := by
  simp [get?, insert, lookup_write_self (segments_ne_nil path)]

end Record

end RuleVerdict
