import RuleVerdict.Group.Verdict

/-!
# Entries under ids

Outcomes and reasons are lists of entries in ascending order of their ids. As long as the ids are
distinct, the order is of no consequence: an entry is found under its id.

* `ById.find?_of_mem`: the entry under an id.
* `Group.find?_entries`: what is kept for an atom.
* `Group.outcomeOf_outcomes`: the outcome under the id of an atom is that of the atom.
* `Group.mem_reasons_iff`, `Group.verdictOf_congr`: the verdict is made of the messages of the atoms
  at fault.
-/

namespace RuleVerdict

namespace ById

variable {α : Type} {entries : ById α}

theorem sorted_perm (entries : ById α) : entries.sorted.Perm entries :=
  List.mergeSort_perm entries _

theorem nodup_sorted_iff :
    (entries.sorted.map Prod.fst).Nodup ↔ (entries.map Prod.fst).Nodup :=
  ((sorted_perm entries).map Prod.fst).nodup_iff

/-- If the ids are distinct, every entry is found under its id. -/
theorem find?_of_mem (hids : (entries.map Prod.fst).Nodup) {id : AtomId} {v : α}
    (h : (id, v) ∈ entries) : entries.find? id = some v := by
  induction entries with
  | nil => cases h
  | cons e es ih =>
    rw [List.map_cons, List.nodup_cons] at hids
    rw [ById.find?, List.find?_cons]
    rcases List.mem_cons.mp h with rfl | h
    · simp
    · have hne : (e.1 == id) = false := by
        rw [beq_eq_false_iff_ne]
        rintro rfl
        exact hids.1 (List.mem_map.mpr ⟨_, h, rfl⟩)
      rw [hne]
      exact ih hids.2 h

end ById

namespace Group

variable {g : Group}

/-- What is kept for each atom under its id. -/
def entries {α : Type} (g : Group) (keep : Atom → α) : ById α :=
  ById.sorted (g.atoms.map fun a => (a.id, keep a))

theorem map_fst_entries_perm {α : Type} (keep : Atom → α) :
    ((g.entries keep).map Prod.fst).Perm (g.atoms.map Atom.id) := by
  have hSame : (g.atoms.map fun a => (a.id, keep a)).map Prod.fst = g.atoms.map Atom.id :=
    List.map_map
  exact hSame ▸ (ById.sorted_perm _).map Prod.fst

/-- What is kept for an atom is found under its id. -/
theorem find?_entries {α : Type} (hids : (g.atoms.map Atom.id).Nodup) {a : Atom}
    (ha : a ∈ g.atoms) (keep : Atom → α) : (g.entries keep).find? a.id = some (keep a) := by
  apply ById.find?_of_mem
  · exact (map_fst_entries_perm keep).nodup_iff.mpr hids
  · exact (ById.sorted_perm _).mem_iff.mpr (List.mem_map.mpr ⟨a, ha, rfl⟩)

/-- The outcome under the id of an atom is that of the atom. -/
theorem outcomeOf_outcomes (hids : (g.atoms.map Atom.id).Nodup) {a : Atom} (ha : a ∈ g.atoms)
    (r : Record) : outcomeOf (g.outcomes r) a.id = a.judge r := by
  have hFound : ById.find? (g.outcomes r) a.id = some (a.judge r) :=
    find?_entries hids ha fun a => a.judge r
  rw [outcomeOf, hFound, Option.getD_some]

/-- The reasons are the messages of the atoms at fault. -/
theorem mem_reasons_iff {outcomes : ById Bool} {id : AtomId} {message : String} :
    (id, message) ∈ (g.verdictOf outcomes).reasons ↔
      ∃ a ∈ g.atoms, a.id = id ∧ a.message = message ∧ id ∈ g.faults outcomes := by
  simp only [verdictOf, (ById.sorted_perm _).mem_iff, List.mem_map, List.mem_filter,
    List.contains_iff_mem, Prod.mk.injEq]
  constructor
  · rintro ⟨a, ⟨ha, hfault⟩, rfl, rfl⟩
    exact ⟨a, ha, rfl, rfl, hfault⟩
  · rintro ⟨a, ha, rfl, rfl, hfault⟩
    exact ⟨a, ⟨ha, hfault⟩, rfl, rfl⟩

/-- No id has two reasons. -/
theorem nodup_reasons (hids : (g.atoms.map Atom.id).Nodup) (outcomes : ById Bool) :
    ((g.verdictOf outcomes).reasons.map Prod.fst).Nodup := by
  rw [verdictOf, ById.nodup_sorted_iff, List.map_map]
  exact List.Nodup.sublist (List.filter_sublist.map Atom.id) hids

/-- A record fits exactly if none of the atoms is at fault. -/
theorem fits_verdictOf_iff {outcomes : ById Bool} :
    (g.verdictOf outcomes).fits = true ↔ ∀ a ∈ g.atoms, a.id ∉ g.faults outcomes := by
  rw [Verdict.fits_iff, List.eq_nil_iff_forall_not_mem]
  constructor
  · intro h a ha hfault
    exact h (a.id, a.message) (mem_reasons_iff.mpr ⟨a, ha, rfl, rfl, hfault⟩)
  · rintro h ⟨id, message⟩ hmem
    obtain ⟨a, ha, rfl, -, hfault⟩ := mem_reasons_iff.mp hmem
    exact h a ha hfault

/-- Without a tree the atoms that do not fit are at fault. -/
theorem mem_faults_outcomes_of_no_tree (htree : g.tree = none) {r : Record} {id : AtomId} :
    id ∈ g.faults (g.outcomes r) ↔ ∃ a ∈ g.atoms, a.id = id ∧ a.judge r = false := by
  have hmem : ∀ entry, entry ∈ g.outcomes r ↔ ∃ a ∈ g.atoms, (a.id, a.judge r) = entry := by
    intro entry
    rw [outcomes, (ById.sorted_perm _).mem_iff, List.mem_map]
  rw [faults, htree]
  simp only [List.mem_map, List.mem_filter, hmem]
  constructor
  · rintro ⟨entry, ⟨⟨a, ha, rfl⟩, hfails⟩, rfl⟩
    exact ⟨a, ha, rfl, by simpa using hfails⟩
  · rintro ⟨a, ha, rfl, hfails⟩
    exact ⟨_, ⟨⟨a, ha, rfl⟩, by simpa using hfails⟩, rfl⟩

/-- Groups with the same atoms have the same verdict if the same atoms are at fault. -/
theorem verdictOf_eq_of_atoms_eq {g' : Group} {outcomes outcomes' : ById Bool}
    (hatoms : g.atoms = g'.atoms)
    (h : ∀ a ∈ g.atoms, a.id ∈ g.faults outcomes ↔ a.id ∈ g'.faults outcomes') :
    g.verdictOf outcomes = g'.verdictOf outcomes' := by
  have hfilter : (g.atoms.filter fun a => (g.faults outcomes).contains a.id) =
      g'.atoms.filter fun a => (g'.faults outcomes').contains a.id := by
    rw [← hatoms]
    refine List.filter_congr fun a ha => ?_
    rw [Bool.eq_iff_iff, List.contains_iff_mem, List.contains_iff_mem, h a ha]
  rw [verdictOf, verdictOf, hfilter]

/-- The verdict depends on which atoms are at fault, and on nothing else. -/
theorem verdictOf_congr {outcomes outcomes' : ById Bool}
    (h : ∀ a ∈ g.atoms, a.id ∈ g.faults outcomes ↔ a.id ∈ g.faults outcomes') :
    g.verdictOf outcomes = g.verdictOf outcomes' := verdictOf_eq_of_atoms_eq rfl h

end Group

end RuleVerdict
