import RuleVerdict.Logic.Formula

/-!
# Values and blame

Under an assignment of truth values a formula has a value. When it is not what it should be, the
fault is put on atoms in one of two ways: on every blamed leaf that is not what it should be,
without looking at any other node; or on every leaf that is reached from the root through nodes
that are not what they should be.

* `divergingAt_of_eq`: a node that is what it should be has no fault below it.
-/

namespace RuleVerdict.Logic.Formula

mutual

/-- The value of a formula under an assignment. -/
def value (truth : AtomId → Bool) : Formula → Bool
  | .atom id => truth id
  | .negation _ f => !value truth f
  | .conjunction _ fs => valueAll truth fs
  | .disjunction _ fs => valueAny truth fs

/-- Whether all formulas are true. -/
def valueAll (truth : AtomId → Bool) : List Formula → Bool
  | [] => true
  | f :: fs => value truth f && valueAll truth fs

/-- Whether some formula is true. -/
def valueAny (truth : AtomId → Bool) : List Formula → Bool
  | [] => false
  | f :: fs => value truth f || valueAny truth fs

end

/-- The atoms of the blamed leaves that are not what they should be. -/
def markedFaults (truth : AtomId → Bool) (f : Formula) : List AtomId :=
  (f.leaves.filter fun l => l.mark.blamed && (truth l.id != l.mark.should)).map Leaf.id

mutual

/-- The atoms reached from a node through nodes that are not what they should be. -/
def divergingAt (truth : AtomId → Bool) (should : Bool) : Formula → List AtomId
  | .atom id => if truth id = should then [] else [id]
  | .negation text f =>
    if value truth (.negation text f) = should then [] else divergingAt truth (!should) f
  | .conjunction text fs =>
    if value truth (.conjunction text fs) = should then [] else divergingEach truth should fs
  | .disjunction text fs =>
    if value truth (.disjunction text fs) = should then [] else divergingEach truth should fs

/-- The atoms reached from some nodes that should all be worth the same. -/
def divergingEach (truth : AtomId → Bool) (should : Bool) : List Formula → List AtomId
  | [] => []
  | f :: fs => divergingAt truth should f ++ divergingEach truth should fs

end

/-- The atoms reached from the root through nodes that are not what they should be. -/
def divergingFaults (truth : AtomId → Bool) (f : Formula) : List AtomId :=
  f.divergingAt truth true

theorem divergingAt_of_eq {truth : AtomId → Bool} {should : Bool} {f : Formula}
    (h : f.value truth = should) : f.divergingAt truth should = [] := by
  cases f <;> simp_all [divergingAt, value]

end RuleVerdict.Logic.Formula
