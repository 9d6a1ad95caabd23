/-!
# Case mappings by runs

A case mapping moves most characters by a common distance over a stretch of neighbours, or of
every second character. A run says where such a stretch starts and ends, how far apart its members
lie and where its first member goes.

* `apply?_eq_some`: what a run does to its members.
-/

namespace RuleVerdict.Unicode

/-- A stretch of code points that a case mapping moves by a common distance. -/
structure CaseRun where
  first : Nat
  last : Nat
  step : Nat
  image : Nat
  deriving DecidableEq

/-- Where the run moves a code point, if that is one of its members. -/
def CaseRun.apply? (r : CaseRun) (n : Nat) : Option Nat :=
  if r.first ≤ n ∧ n ≤ r.last ∧ (n - r.first) % r.step = 0 then some (r.image + (n - r.first))
  else none

theorem CaseRun.apply?_eq_some {r : CaseRun} {n m : Nat} :
    r.apply? n = some m ↔
      (r.first ≤ n ∧ n ≤ r.last ∧ (n - r.first) % r.step = 0) ∧ m = r.image + (n - r.first) := by
  unfold CaseRun.apply?
  split <;> simp_all [eq_comm]

/-- The members of a run. -/
def CaseRun.members (r : CaseRun) : List Nat :=
  (List.range ((r.last - r.first) / r.step + 1)).map fun i => r.first + r.step * i

end RuleVerdict.Unicode
