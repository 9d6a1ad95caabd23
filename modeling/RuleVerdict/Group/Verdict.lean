import RuleVerdict.Group.Basic
import RuleVerdict.Logic.Walk

/-!
# Verdicts

Judging a record, every atom of a group comes to an outcome. Without a logic the atoms that do not
fit are at fault; with one the blame mode says how the faults are found in its tree. The verdict
lists the atoms at fault with their messages, and the record fits when there are none.

* `fits_iff`: the record fits exactly if there are no reasons.
* `report_verdict`: the report carries the verdict.
-/

namespace RuleVerdict

/-- Entries under atom ids. -/
abbrev ById (α : Type) := List (AtomId × α)

namespace ById

/-- The entries in ascending order of their ids. -/
def sorted {α : Type} (entries : ById α) : ById α :=
  entries.mergeSort fun a b => decide (a.1 ≤ b.1)

/-- The first entry under an id. -/
def find? {α : Type} (entries : ById α) (id : AtomId) : Option α :=
  (List.find? (fun e => e.1 == id) entries).map Prod.snd

end ById

/-- The atoms at fault with their messages, in ascending order of their ids. -/
structure Verdict where
  reasons : ById String
  deriving DecidableEq

namespace Verdict

/-- Whether the record fits. -/
def fits (v : Verdict) : Bool := v.reasons.isEmpty

/-- Ids in brackets. -/
def idList (ids : List AtomId) : String :=
  "[" ++ String.intercalate ", " (ids.map AtomId.text) ++ "]"

/-- How the verdict is shown. -/
def shown (v : Verdict) : String :=
  if v.fits then "fit" else "no fit: " ++ idList (v.reasons.map Prod.fst)

theorem fits_iff (v : Verdict) : v.fits = true ↔ v.reasons = [] := by
  simp [fits, List.isEmpty_iff]

end Verdict

/-- A verdict with what each atom came to and what it found. -/
structure Report where
  verdict : Verdict
  outcomes : ById Bool
  values : ById (Option Value)

/-- How the report is shown: the verdict and the atoms that fit. -/
def Report.shown (r : Report) : String :=
  "verdict: " ++ r.verdict.shown ++ ", fitted: " ++
    Verdict.idList ((r.outcomes.filter Prod.snd).map Prod.fst)

namespace Group

/-- What each atom comes to. -/
def outcomes (g : Group) (r : Record) : ById Bool :=
  ById.sorted (g.atoms.map fun a => (a.id, a.judge r))

/-- The value under each atom's path. -/
def values (g : Group) (r : Record) : ById (Option Value) :=
  ById.sorted (g.atoms.map fun a => (a.id, r.get? a.key))

/-- The outcome of an atom; an id without one counts as not fitting. -/
def outcomeOf (outcomes : ById Bool) (id : AtomId) : Bool := (ById.find? outcomes id).getD false

/-- The atoms at fault, given what each atom came to. -/
def faults (g : Group) (outcomes : ById Bool) : List AtomId :=
  match g.tree with
  | none => (outcomes.filter fun o => !o.2).map Prod.fst
  | some t =>
    match g.blame with
    | .firstDisjunct => t.markedFaults (outcomeOf outcomes)
    | .exhaustive => t.divergingFaults (outcomeOf outcomes)

/-- The verdict, given what each atom came to. -/
def verdictOf (g : Group) (outcomes : ById Bool) : Verdict :=
  let faults := g.faults outcomes
  ⟨ById.sorted ((g.atoms.filter fun a => faults.contains a.id).map fun a => (a.id, a.message))⟩

/-- The verdict on a record. -/
def evaluate (g : Group) (r : Record) : Verdict := g.verdictOf (g.outcomes r)

/-- Whether a record fits. -/
def fits (g : Group) (r : Record) : Bool := (g.evaluate r).fits

/-- The verdict on a record with the outcomes and values behind it. -/
def report (g : Group) (r : Record) : Report :=
  let outcomes := g.outcomes r
  ⟨g.verdictOf outcomes, outcomes, g.values r⟩

theorem report_verdict (g : Group) (r : Record) : (g.report r).verdict = g.evaluate r := rfl

end Group

end RuleVerdict
