import RuleVerdict.Proofs.Record.LastWrite

/-!
# Where a path leads

A path is followed name by name, and every name but the last one has to stand for entries of its
own. Looking for a value under a path and looking at what an atom finds there both follow it to the
same entry; they differ only in what they make of an entry that is no value.

* `lookup_eq_some_iff`: the entry at the end of a path.
* `get?_eq_some_iff`, `field_of_get?`: paths that lead to a value.
* `field_of_get?_eq_none`: what else an atom can find.
* `field_eq_absent_iff`, `field_eq_unsupported_iff`: the other paths.
-/

namespace RuleVerdict.Record

/-- A row of names that can be followed to an entry. -/
inductive Leads (entry : Entry) : List String → List (String × Entry) → Prop
  | last {name : String} {ms : List (String × Entry)} (h : entryAt name ms = some entry) :
      Leads entry [name] ms
  | step {name : String} {rest : List String} {ms inner : List (String × Entry)}
      (h : entryAt name ms = some (.nested inner)) (hRest : Leads entry rest inner) :
      Leads entry (name :: rest) ms

theorem Leads.ne_nil {entry : Entry} {path : List String} {ms : List (String × Entry)}
    (h : Leads entry path ms) : path ≠ [] := by
  cases h <;> exact List.cons_ne_nil _ _

/-- The entry at the end of a path. -/
theorem lookup_eq_some_iff {entry : Entry} {path : List String} {ms : List (String × Entry)} :
    lookup path ms = some entry ↔ Leads entry path ms := by
  constructor
  · intro h
    induction path generalizing ms with
    | nil => cases h
    | cons name rest ih =>
      cases rest with
      | nil => exact .last h
      | cons next rest =>
        rw [lookup] at h
        · split at h
          · next inner hEntry => exact .step hEntry (ih h)
          · cases h
        · exact List.cons_ne_nil next rest
  · intro h
    induction h with
    | last h => exact h
    | step h hRest ih => rw [lookup_cons hRest.ne_nil, h, membersOf, ih]

variable {r : Record} {path : String}

/-- A path that leads to an entry of a record. -/
def LeadsTo (r : Record) (path : String) (entry : Entry) : Prop :=
  Leads entry (segments path) r.members

/-- A path that leads nowhere: a name is missing, or there are no entries to look for it in. -/
def IsMissing (r : Record) (path : String) : Prop := ∀ entry, ¬r.LeadsTo path entry

/-- A path that ends on entries of their own or on something that no comparison accepts. -/
def EndsWithoutValue (r : Record) (path : String) : Prop :=
  (∃ inner, r.LeadsTo path (.nested inner)) ∨ r.LeadsTo path .unsupported

theorem get?_eq_some_iff {v : Value} : r.get? path = some v ↔ r.LeadsTo path (.value v) := by
  rw [LeadsTo, ← lookup_eq_some_iff]
  unfold get?
  cases lookup (segments path) r.members with
  | none => exact iff_of_false nofun nofun
  | some e =>
    cases e with
    | value w => rw [Option.some.injEq, Option.some.injEq, Entry.value.injEq]
    | nested inner => exact iff_of_false nofun nofun
    | unsupported => exact iff_of_false nofun nofun

/-- Where a value is found, an atom finds the same. -/
theorem field_of_get? {v : Value} (h : r.get? path = some v) : r.field path = v.field := by
  rw [get?_eq_some_iff, LeadsTo, ← lookup_eq_some_iff] at h
  rw [field, h]

/-- Where no value is found, an atom finds nothing at all or nothing it could compare. -/
theorem field_of_get?_eq_none (h : r.get? path = none) :
    r.field path = .absent ∨ r.field path = .unsupported := by
  unfold get? at h
  unfold field
  cases hLookup : lookup (segments path) r.members with
  | none => exact .inl rfl
  | some e =>
    cases e with
    | value v =>
      rw [hLookup] at h
      cases h
    | nested inner => exact .inr rfl
    | unsupported => exact .inr rfl

theorem field_eq_absent_iff : r.field path = .absent ↔ r.IsMissing path := by
  unfold IsMissing LeadsTo
  simp only [← lookup_eq_some_iff]
  unfold field
  cases lookup (segments path) r.members with
  | none => exact iff_of_true rfl nofun
  | some e =>
    refine iff_of_false ?_ fun h => h e rfl
    cases e with
    | value v => cases v <;> exact nofun
    | nested inner => exact nofun
    | unsupported => exact nofun

theorem field_eq_unsupported_iff : r.field path = .unsupported ↔ r.EndsWithoutValue path := by
  unfold EndsWithoutValue LeadsTo
  simp only [← lookup_eq_some_iff]
  unfold field
  cases lookup (segments path) r.members with
  | none => simp
  | some e =>
    cases e with
    | value v => cases v <;> simp [Value.field]
    | nested inner => simp
    | unsupported => simp

end RuleVerdict.Record
