import RuleVerdict.Record
import Mathlib.Data.List.Induction

/-!
# The last write

Writing a value under a path replaces what stands there, with everything below it, and whatever
stands in its way. So a write has a say on a path if it is made under that path, under a beginning
of it, or under an extension of it, and on no other path. After many writes into a record, what is
found under a path is what the last write with a say on it has left there, and if there is none it
is what the record held before.

* `lookup_write_of_not_concerns`: a write leaves the other paths alone.
* `found_insert_of_concerns`: what a write leaves under a path that it has a say on.
* `found_insertAll`: what is found after any number of writes.
-/

namespace RuleVerdict.Record

variable {written asked : List String}

/-- A write has a say on a path: one of the two paths begins with the other. -/
def Concerns (written asked : List String) : Prop := written <+: asked ∨ asked <+: written

instance decidableConcerns (written asked : List String) : Decidable (Concerns written asked) :=
  inferInstanceAs (Decidable (_ ∨ _))

/-- The value under a path, and what an atom finds there. -/
def found (r : Record) (path : String) : Option Value × Field := (r.get? path, r.field path)

/-- What a write leaves under a path that it has a say on: its value, or something that has
entries of its own, or nothing. -/
def remains (written : List String) (v : Value) (asked : List String) : Option Value × Field :=
  if written = asked then (some v, v.field)
  else if asked <+: written then (none, .unsupported)
  else (none, .absent)

/-- The record after some writes, one after the other. -/
def insertAll (r : Record) (writes : List (String × Value)) : Record :=
  writes.foldl (fun r w => r.insert w.1 w.2) r

/-- The last of some writes that has a say on a path. -/
def lastConcerning (writes : List (String × Value)) (path : String) : Option (String × Value) :=
  writes.reverse.find? fun w => decide (Concerns (segments w.1) (segments path))

/-! ## One name at a time -/

theorem lookup_nil_members (path : List String) : lookup path [] = none := by
  rcases path with _ | ⟨name, _ | ⟨next, rest⟩⟩ <;> rfl

theorem lookup_cons {rest : List String} (h : rest ≠ []) (name : String)
    (ms : List (String × Entry)) :
    lookup (name :: rest) ms = lookup rest (membersOf (entryAt name ms)) := by
  rw [lookup]
  · split
    · next hEntry => rw [hEntry, membersOf]
    · next hOther =>
      have hNone : membersOf (entryAt name ms) = [] := by
        unfold membersOf
        split
        · next hEntry => exact absurd hEntry (hOther _)
        · rfl
      rw [hNone, lookup_nil_members]
  · exact h

theorem write_cons {rest : List String} (h : rest ≠ []) (name : String) (v : Value)
    (ms : List (String × Entry)) :
    write (name :: rest) v ms =
      put name (.nested (write rest v (membersOf (entryAt name ms)))) ms := by
  rw [write]
  exact h

/-- Below the first name of the write, the rest of it is written. -/
theorem lookup_cons_write_cons {below rest : List String} (hBelow : below ≠ []) (hRest : rest ≠ [])
    (name : String) (v : Value) (ms : List (String × Entry)) :
    lookup (name :: below) (write (name :: rest) v ms) =
      lookup below (write rest v (membersOf (entryAt name ms))) := by
  rw [lookup_cons hBelow, write_cons hRest, entryAt_put_self, membersOf]

/-! ## What a write leaves -/

/-- Above the end of a write there are nested entries. -/
theorem exists_lookup_write_of_extends (hNe : asked ≠ []) (hBegins : asked <+: written)
    (hOther : written ≠ asked) (v : Value) (ms : List (String × Entry)) :
    ∃ inner, lookup asked (write written v ms) = some (.nested inner) := by
  induction asked generalizing written ms with
  | nil => exact absurd rfl hNe
  | cons name below ih =>
    obtain ⟨last, rfl⟩ := hBegins
    have hRest : below ++ last ≠ [] := by
      intro hNil
      obtain ⟨rfl, rfl⟩ := List.append_eq_nil_iff.mp hNil
      exact hOther rfl
    by_cases hBelow : below = []
    · subst hBelow
      rw [List.cons_append, write_cons hRest, lookup, entryAt_put_self]
      exact ⟨_, rfl⟩
    · rw [List.cons_append, lookup_cons_write_cons hBelow hRest]
      apply ih hBelow (List.prefix_append below last)
      intro hSame
      exact hOther (congrArg (name :: ·) hSame)

/-- Below the end of a write there is nothing. -/
theorem lookup_write_of_begins (hNe : written ≠ []) (hBegins : written <+: asked)
    (hOther : written ≠ asked) (v : Value) (ms : List (String × Entry)) :
    lookup asked (write written v ms) = none := by
  induction written generalizing asked ms with
  | nil => exact absurd rfl hNe
  | cons name rest ih =>
    obtain ⟨last, rfl⟩ := hBegins
    have hBelow : rest ++ last ≠ [] := by
      intro hNil
      obtain ⟨rfl, rfl⟩ := List.append_eq_nil_iff.mp hNil
      exact hOther rfl
    by_cases hRest : rest = []
    · subst hRest
      have hWrite : write [name] v ms = put name (.value v) ms := rfl
      have hMembers : membersOf (some (.value v)) = [] := rfl
      rw [List.cons_append, lookup_cons hBelow, hWrite, entryAt_put_self, hMembers,
        lookup_nil_members]
    · rw [List.cons_append, lookup_cons_write_cons hBelow hRest]
      apply ih hRest (List.prefix_append rest last)
      intro hSame
      exact hOther (congrArg (name :: ·) hSame)

/-- A write leaves the paths alone that it has no say on. -/
theorem lookup_write_of_not_concerns (h : ¬Concerns written asked) (v : Value)
    (ms : List (String × Entry)) : lookup asked (write written v ms) = lookup asked ms := by
  induction written generalizing asked ms with
  | nil => exact absurd (.inl List.nil_prefix) h
  | cons name rest ih =>
    cases asked with
    | nil => exact absurd (.inr List.nil_prefix) h
    | cons other below =>
      by_cases hName : other = name
      · subst hName
        have hApart : ¬Concerns rest below := by
          simpa only [Concerns, List.cons_prefix_cons, true_and] using h
        have hRest : rest ≠ [] := by
          rintro rfl
          exact hApart (.inl List.nil_prefix)
        have hBelow : below ≠ [] := by
          rintro rfl
          exact hApart (.inr List.nil_prefix)
        rw [lookup_cons_write_cons hBelow hRest, ih hApart, lookup_cons hBelow]
      · have hEntry : entryAt other (write (name :: rest) v ms) = entryAt other ms := by
          cases rest with
          | nil => exact entryAt_put_of_ne hName _ _
          | cons next rest =>
            rw [write_cons (List.cons_ne_nil next rest)]
            exact entryAt_put_of_ne hName _ _
        cases below with
        | nil => exact hEntry
        | cons next below =>
          rw [lookup_cons (List.cons_ne_nil next below), hEntry,
            ← lookup_cons (List.cons_ne_nil next below)]

/-! ## What is found after writing -/

theorem found_insert_of_concerns (r : Record) {path : String} {q : String}
    (h : Concerns (segments path) (segments q)) (v : Value) :
    (r.insert path v).found q = remains (segments path) v (segments q) := by
  have hWritten := segments_ne_nil path
  have hAsked := segments_ne_nil q
  unfold remains
  split
  · next hSame =>
    have hLookup := lookup_write_self hAsked v r.members
    simp only [found, get?, field, insert, hSame, hLookup]
  · next hOther =>
    split
    · next hExtends =>
      obtain ⟨inner, hLookup⟩ := exists_lookup_write_of_extends hAsked hExtends hOther v r.members
      simp only [found, get?, field, insert, hLookup]
    · next hNot =>
      have hBegins := h.resolve_right hNot
      have hLookup := lookup_write_of_begins hWritten hBegins hOther v r.members
      simp only [found, get?, field, insert, hLookup]

theorem found_insert_of_not_concerns (r : Record) {path : String} {q : String}
    (h : ¬Concerns (segments path) (segments q)) (v : Value) :
    (r.insert path v).found q = r.found q := by
  have hLookup := lookup_write_of_not_concerns h v r.members
  simp only [found, get?, field, insert, hLookup]

theorem insertAll_concat (r : Record) (writes : List (String × Value)) (w : String × Value) :
    r.insertAll (writes ++ [w]) = (r.insertAll writes).insert w.1 w.2 := by
  rw [insertAll, List.foldl_append]
  rfl

theorem lastConcerning_concat (writes : List (String × Value)) (w : String × Value)
    (path : String) :
    lastConcerning (writes ++ [w]) path =
      if Concerns (segments w.1) (segments path) then some w else lastConcerning writes path := by
  rw [lastConcerning, List.reverse_append, List.reverse_singleton, List.singleton_append,
    List.find?_cons]
  split <;> simp_all [lastConcerning]

/-- **The last write counts.** After any writes into any record, a path that no write has a say on
is found as before. On any other path the last write with a say on it decides: its value is found
under the path that was written, above that path there is something without a value, and below it
there is nothing. -/
theorem found_insertAll (r : Record) (writes : List (String × Value)) (path : String) :
    (r.insertAll writes).found path =
      match lastConcerning writes path with
      | none => r.found path
      | some (p, v) => remains (segments p) v (segments path) := by
  induction writes using List.reverseRecOn with
  | nil => rfl
  | append_singleton writes w ih =>
    obtain ⟨p, v⟩ := w
    rw [insertAll_concat, lastConcerning_concat]
    by_cases h : Concerns (segments p) (segments path)
    · rw [found_insert_of_concerns _ h, if_pos h]
    · rw [found_insert_of_not_concerns _ h, if_neg h, ih]

/-- What was written below `a` is gone once `a` itself is written. -/
example : (empty.insertAll [("a.b", .bool true), ("a", .bool false)]).found "a.b" =
    (none, .absent) := rfl

end RuleVerdict.Record
