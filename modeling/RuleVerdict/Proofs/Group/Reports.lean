import RuleVerdict.Proofs.Atom.Degraded
import RuleVerdict.Proofs.Group.Verdicts
import RuleVerdict.Proofs.Record.Paths

/-!
# What a report says

A report gives, besides the verdict, the outcome of every atom and the value under its path. The two
are looked for separately, so a value that is reported might be another one than the atom has
judged. It is not: both searches follow the same path, and where no value is found the outcome says
only whether the path leads anywhere.

* `Report.Explains`: how a report goes together with a group and a record.
* `report_explains`: the reports of compiled groups do.
-/

namespace RuleVerdict

namespace Atom

variable (a : Atom) (r : Record)

/-- An outcome of an atom that goes together with what was found under its path. With a value it is
what the atom makes of that value. Without one it says that the path is missing, if the atom asks
for that, or that it is not, if the atom asks for that. -/
structure AccountsFor (found : Option Value) (outcome : Bool) : Prop where
  found_iff : ∀ v, found = some v ↔ r.LeadsTo a.key (.value v)
  of_value : ∀ v, found = some v → outcome = a.fits v.field
  of_none : found = none →
    (outcome = true ↔
      (a.op = .absent ∧ r.IsMissing a.key) ∨ (a.op = .present ∧ r.EndsWithoutValue a.key))

theorem judge_of_get?_eq_none (h : r.get? a.key = none) :
    a.judge r = true ↔
      (a.op = .absent ∧ r.IsMissing a.key) ∨ (a.op = .present ∧ r.EndsWithoutValue a.key) := by
  rw [← Record.field_eq_absent_iff, ← Record.field_eq_unsupported_iff, judge_eq]
  rcases Record.field_of_get?_eq_none h with hField | hField
  · rw [hField, Matcher.fits_field_absent_iff]
    simp
  · rw [hField, Matcher.fits_field_unsupported_iff]
    simp

/-- The two searches under the path of an atom agree. -/
theorem accountsFor : a.AccountsFor r (r.get? a.key) (a.judge r) where
  found_iff v := Record.get?_eq_some_iff
  of_value v h := by rw [judge, Record.field_of_get? h]
  of_none := a.judge_of_get?_eq_none r

end Atom

/-- How a report goes together with a group and a record: it has their verdict, its entries are
those of the atoms of the group, and what it says of each atom fits together. -/
structure Report.Explains (report : Report) (g : Group) (r : Record) : Prop where
  verdict : report.verdict = g.evaluate r
  fits : report.verdict.fits = g.fits r
  nodup : (g.atoms.map Atom.id).Nodup
  outcomeIds : (report.outcomes.map Prod.fst).Perm (g.atoms.map Atom.id)
  valueIds : (report.values.map Prod.fst).Perm (g.atoms.map Atom.id)
  accounts : ∀ a ∈ g.atoms, ∃ found outcome, report.values.find? a.id = some found ∧
    report.outcomes.find? a.id = some outcome ∧ a.AccountsFor r found outcome

variable {d : GroupDefinition} {c : TreeCache} {g : Group}

/-- **The report explains the verdict.** The report of a compiled group on a record has the verdict
that the group comes to without a report. Its outcomes and its values are those of the atoms of the
group, each under one id, and every outcome is accounted for by the value or by the lack of one. -/
theorem report_explains (hc : c.Reachable) (h : (d.compileWith c).1 = .ok g) (r : Record) :
    (g.report r).Explains g r := by
  have hids := (compiled_of_compileWith hc h).nodup
  refine ⟨rfl, rfl, hids, Group.map_fst_entries_perm _, Group.map_fst_entries_perm _, ?_⟩
  intro a ha
  refine ⟨r.get? a.key, a.judge r, ?_, ?_, a.accountsFor r⟩
  · exact Group.find?_entries hids ha fun a => r.get? a.key
  · exact Group.find?_entries hids ha fun a => a.judge r

/-- With `a` as asked for and without `b`, both atoms come to true: the first for its value, the
second for the lack of one. -/
theorem report_explains_neither :
    let report := (neitherGroup .exhaustive).report ⟨[("a", .value (.text "x"))]⟩
    ((neither .exhaustive).compileWith .empty).1 = .ok (neitherGroup .exhaustive) ∧
      report.values.find? 1 = some (some (.text "x")) ∧ report.outcomes.find? 1 = some true ∧
      report.values.find? 2 = some none ∧ report.outcomes.find? 2 = some true := by
  intro report
  have hExplains : report.Explains _ _ :=
    report_explains .empty (compile_neither .exhaustive) ⟨[("a", .value (.text "x"))]⟩
  obtain ⟨foundA, outcomeA, hFoundA, hOutcomeA, hA⟩ :=
    hExplains.accounts _ List.mem_cons_self
  obtain ⟨foundB, outcomeB, hFoundB, hOutcomeB, hB⟩ :=
    hExplains.accounts _ (List.mem_cons_of_mem _ List.mem_cons_self)
  obtain rfl := (hA.found_iff (.text "x")).mpr (.last rfl)
  obtain rfl := hA.of_value _ rfl
  have hMissing : Record.IsMissing ⟨[("a", .value (.text "x"))]⟩ "b" :=
    Record.field_eq_absent_iff.mp rfl
  have hNone : foundB = none := by
    cases foundB with
    | none => rfl
    | some v => exact absurd ((hB.found_iff v).mp rfl) (hMissing _)
  subst hNone
  obtain rfl : outcomeB = true := (hB.of_none rfl).mpr (.inl ⟨rfl, hMissing⟩)
  exact ⟨compile_neither .exhaustive, hFoundA, hOutcomeA, hFoundB, hOutcomeB⟩

end RuleVerdict
