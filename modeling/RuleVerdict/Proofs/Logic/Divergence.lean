import RuleVerdict.Proofs.Logic.Faults
import Mathlib.Data.List.Nodup
import Mathlib.Data.List.Pairwise

/-!
# What the diverging paths explain

A node diverges when it is not what it should be. The atoms that are reached from it through
diverging nodes explain why: as long as they keep their values the node diverges, and if they are
all turned around it does not any more. Setting an atom to the value that it should have, on the
other hand, never makes a node diverge. The values before are `v` and those after are `w`.

* `persists_of_agree`: the atoms that are reached suffice for the divergence.
* `persists_of_corrected`: correcting atoms neither makes a node diverge nor adds an atom.
* `value_of_turned`: if no atom has two leaves, turning around what is reached corrects the node.
-/

namespace RuleVerdict.Logic.Formula

variable {v w : AtomId → Bool} {should : Bool} {text : String} {f : Formula} {fs : List Formula}
  {id : AtomId}

/-! ## What the leaves demand -/

mutual

/-- The atoms from left to right, each with the value that it should have. -/
def demands (should : Bool) : Formula → List (AtomId × Bool)
  | .atom id => [(id, should)]
  | .negation _ f => demands (!should) f
  | .conjunction _ fs => demandsEach should fs
  | .disjunction _ fs => demandsEach should fs

/-- The demands of formulas that should all be worth the same. -/
def demandsEach (should : Bool) : List Formula → List (AtomId × Bool)
  | [] => []
  | f :: fs => demands should f ++ demandsEach should fs

end

theorem demandsEach_eq_flatMap (should : Bool) (fs : List Formula) :
    demandsEach should fs = fs.flatMap (demands should) := by
  induction fs with
  | nil => rfl
  | cons f fs ih => rw [demandsEach, ih, List.flatMap_cons]

theorem mem_demandsEach (hf : f ∈ fs) {p : AtomId × Bool} (hp : p ∈ f.demands should) :
    p ∈ demandsEach should fs := by
  rw [demandsEach_eq_flatMap]
  exact List.mem_flatMap.mpr ⟨f, hf, hp⟩

/-- The demand of a leaf. -/
def demandOf (l : Leaf) : AtomId × Bool := (l.id, l.mark.should)

mutual

/-- The marks of the leaves say what they demand. -/
theorem map_demandOf_leavesAt : (f : Formula) → ∀ m : Mark,
    (f.leavesAt m).map demandOf = f.demands m.should
  | .atom _, _ => rfl
  | .negation _ f, m => map_demandOf_leavesAt f m.negate
  | .conjunction _ fs, m => map_demandOf_leavesEach fs m
  | .disjunction _ [], _ => rfl
  | .disjunction _ (f :: fs), m => by
    have hfs : (leavesEach m.excuse fs).map demandOf = demandsEach m.should fs :=
      map_demandOf_leavesEach fs m.excuse
    rw [leavesAt, leavesFirst, List.map_append, map_demandOf_leavesAt f m, hfs, demands,
      demandsEach]

theorem map_demandOf_leavesEach : (fs : List Formula) → ∀ m : Mark,
    (leavesEach m fs).map demandOf = demandsEach m.should fs
  | [], _ => rfl
  | f :: fs, m => by
    rw [leavesEach, List.map_append, map_demandOf_leavesAt f m, map_demandOf_leavesEach fs m,
      demandsEach]

end

/-! ## What is reached from a diverging node -/

theorem mem_divergingAt_atom {a : AtomId} :
    id ∈ divergingAt v should (.atom a) ↔ v a ≠ should ∧ id = a := by
  rw [divergingAt]
  split <;> simp [*]

/-- A negation diverges exactly if its operand does. -/
theorem divergingAt_negation :
    divergingAt v should (.negation text f) = divergingAt v (!should) f := by
  rw [divergingAt]
  split
  · next h => rw [divergingAt_of_eq (Bool.not_eq_eq_eq_not.mp h)]
  · rfl

theorem divergingAt_conjunction (h : valueAll v fs ≠ should) :
    divergingAt v should (.conjunction text fs) = divergingEach v should fs := if_neg h

/-- A chain of `and` that should be true diverges where its operands do. -/
theorem divergingAt_conjunction_true :
    divergingAt v true (.conjunction text fs) = divergingEach v true fs := by
  by_cases h : valueAll v fs = true
  · have hfs : divergingEach v true fs = [] := by
      rw [valueAll_eq_all, List.all_eq_true] at h
      rw [divergingEach_eq_flatMap, List.flatMap_eq_nil_iff]
      exact fun f hf => divergingAt_of_eq (h f hf)
    rw [hfs]
    exact divergingAt_of_eq h
  · exact divergingAt_conjunction h

theorem divergingAt_disjunction (h : valueAny v fs ≠ should) :
    divergingAt v should (.disjunction text fs) = divergingEach v should fs := if_neg h

theorem mem_divergingEach (hf : f ∈ fs) (hid : id ∈ f.divergingAt v should) :
    id ∈ divergingEach v should fs := by
  rw [divergingEach_eq_flatMap]
  exact List.mem_flatMap.mpr ⟨f, hf, hid⟩

/-- What is reached from a node is one of its atoms. -/
theorem mem_demands_of_mem_divergingAt (h : f.Proper) (hid : id ∈ f.divergingAt v should) :
    id ∈ (f.demands should).map Prod.fst := by
  obtain ⟨l, hl, rfl⟩ := exists_leaf_of_mem_divergingAt h hid ⟨should, true⟩
  rw [show should = (Mark.mk should true).should from rfl, ← map_demandOf_leavesAt, List.map_map]
  exact List.mem_map.mpr ⟨l, hl, rfl⟩

/-! ## Divergence that persists -/

/-- If the node diverges under `v`, it also does under `w`, and whatever is reached from it under
`v` is reached under `w`. -/
structure Persists (v w : AtomId → Bool) (should : Bool) (f : Formula) : Prop where
  diverges : f.value v ≠ should → f.value w ≠ should
  reached : f.divergingAt v should ⊆ f.divergingAt w should

/-- From a chain of `and` that is not what it should be some operands diverge: one of them if they
should be true, and all if they should be false. It is enough that those still do. -/
theorem valueAll_ne_of_forall (h : ∀ f ∈ fs, f.value v ≠ should → f.value w ≠ should)
    (hv : valueAll v fs ≠ should) : valueAll w fs ≠ should := by
  rw [valueAll_eq_all] at hv ⊢
  cases should with
  | true =>
    rw [ne_eq, Bool.not_eq_true, List.all_eq_false] at hv ⊢
    obtain ⟨f, hf, hfv⟩ := hv
    exact ⟨f, hf, h f hf hfv⟩
  | false =>
    rw [Bool.ne_false_iff, List.all_eq_true] at hv ⊢
    intro f hf
    exact Bool.ne_false_iff.mp (h f hf (Bool.ne_false_iff.mpr (hv f hf)))

theorem valueAny_ne_of_forall (h : ∀ f ∈ fs, f.value v ≠ should → f.value w ≠ should)
    (hv : valueAny v fs ≠ should) : valueAny w fs ≠ should := by
  rw [valueAny_eq_any] at hv ⊢
  cases should with
  | true =>
    rw [ne_eq, Bool.not_eq_true, List.any_eq_false] at hv ⊢
    intro f hf
    exact h f hf (hv f hf)
  | false =>
    rw [Bool.ne_false_iff, List.any_eq_true] at hv ⊢
    obtain ⟨f, hf, hfv⟩ := hv
    exact ⟨f, hf, Bool.ne_false_iff.mp (h f hf (Bool.ne_false_iff.mpr hfv))⟩

theorem divergingEach_subset (h : ∀ f ∈ fs, f.divergingAt v should ⊆ f.divergingAt w should) :
    divergingEach v should fs ⊆ divergingEach w should fs := by
  intro id hid
  rw [divergingEach_eq_flatMap] at hid
  obtain ⟨f, hf, hid⟩ := List.mem_flatMap.mp hid
  exact mem_divergingEach hf (h f hf hid)

namespace Persists

/-- Nothing has to persist at a node that is what it should be. -/
theorem of_eq (h : f.value v = should) : Persists v w should f := by
  refine ⟨fun hne => absurd h hne, ?_⟩
  rw [divergingAt_of_eq h]
  exact List.nil_subset _

theorem atom (h : v id ≠ should → w id ≠ should) : Persists v w should (.atom id) := by
  refine ⟨h, fun i hi => ?_⟩
  obtain ⟨hv, rfl⟩ := mem_divergingAt_atom.mp hi
  exact mem_divergingAt_atom.mpr ⟨h hv, rfl⟩

theorem negation (h : Persists v w (!should) f) : Persists v w should (.negation text f) := by
  constructor
  · intro hne he
    refine h.diverges (fun hf => hne ?_) (Bool.not_eq_eq_eq_not.mp he)
    rw [value, hf, Bool.not_not]
  · rw [divergingAt_negation, divergingAt_negation]
    exact h.reached

theorem conjunction (h : ∀ f ∈ fs, Persists v w should f) :
    Persists v w should (.conjunction text fs) := by
  by_cases hv : valueAll v fs = should
  · exact of_eq hv
  · have hw := valueAll_ne_of_forall (fun f hf => (h f hf).diverges) hv
    refine ⟨fun _ => hw, ?_⟩
    rw [divergingAt_conjunction hv, divergingAt_conjunction hw]
    exact divergingEach_subset fun f hf => (h f hf).reached

theorem disjunction (h : ∀ f ∈ fs, Persists v w should f) :
    Persists v w should (.disjunction text fs) := by
  by_cases hv : valueAny v fs = should
  · exact of_eq hv
  · have hw := valueAny_ne_of_forall (fun f hf => (h f hf).diverges) hv
    refine ⟨fun _ => hw, ?_⟩
    rw [divergingAt_disjunction hv, divergingAt_disjunction hw]
    exact divergingEach_subset fun f hf => (h f hf).reached

end Persists

/-- As long as the atoms that are reached keep their values, the divergence persists. -/
theorem persists_of_agree (h : f.Proper) (hagree : ∀ id ∈ f.divergingAt v should, w id = v id) :
    Persists v w should f := by
  induction h generalizing should with
  | atom a =>
    refine .atom fun hne => ?_
    rwa [hagree a (mem_divergingAt_atom.mpr ⟨hne, rfl⟩)]
  | negation h ih =>
    rw [divergingAt_negation] at hagree
    exact .negation (ih hagree)
  | @conjunction text fs hlen h ih =>
    by_cases hv : valueAll v fs = should
    · exact .of_eq hv
    · rw [divergingAt_conjunction hv] at hagree
      exact .conjunction fun f hf => ih f hf fun id hid => hagree id (mem_divergingEach hf hid)
  | @disjunction text fs hlen h ih =>
    by_cases hv : valueAny v fs = should
    · exact .of_eq hv
    · rw [divergingAt_disjunction hv] at hagree
      exact .disjunction fun f hf => ih f hf fun id hid => hagree id (mem_divergingEach hf hid)

/-- What diverges after some atoms have been set to the values that they should have, diverged
before. -/
theorem persists_of_corrected (h : f.Proper)
    (hcorrected : ∀ p ∈ f.demands should, w p.1 ≠ v p.1 → w p.1 = p.2) :
    Persists w v should f := by
  induction h generalizing should with
  | atom a =>
    have ha := hcorrected (a, should) (List.mem_singleton.mpr rfl)
    exact .atom fun hne hv => hne (ha fun he => hne (he.trans hv))
  | negation h ih => exact .negation (ih hcorrected)
  | conjunction hlen h ih =>
    exact .conjunction fun f hf => ih f hf fun p hp => hcorrected p (mem_demandsEach hf hp)
  | disjunction hlen h ih =>
    exact .disjunction fun f hf => ih f hf fun p hp => hcorrected p (mem_demandsEach hf hp)

/-- A node that is what it should be stays so when some of its atoms are set to the values that
they should have. -/
theorem value_of_corrected (h : f.Proper)
    (hcorrected : ∀ p ∈ f.demands should, w p.1 ≠ v p.1 → w p.1 = p.2)
    (hv : f.value v = should) : f.value w = should := by
  by_contra hw
  exact (persists_of_corrected h hcorrected).diverges hw hv

/-! ## Turning around what is reached -/

theorem nodup_demands_of_mem (hids : ((demandsEach should fs).map Prod.fst).Nodup)
    (hf : f ∈ fs) : ((f.demands should).map Prod.fst).Nodup := by
  rw [demandsEach_eq_flatMap, List.map_flatMap, List.nodup_flatMap] at hids
  exact hids.1 f hf

/-- If no atom has two leaves, an atom of one operand is reached from no other operand. -/
theorem mem_divergingAt_of_mem_each (h : ∀ f ∈ fs, f.Proper)
    (hids : ((demandsEach should fs).map Prod.fst).Nodup) (hf : f ∈ fs)
    (hid : id ∈ (f.demands should).map Prod.fst) (hreached : id ∈ divergingEach v should fs) :
    id ∈ f.divergingAt v should := by
  rw [demandsEach_eq_flatMap, List.map_flatMap, List.nodup_flatMap] at hids
  rw [divergingEach_eq_flatMap] at hreached
  obtain ⟨g, hg, hreached⟩ := List.mem_flatMap.mp hreached
  by_contra hnot
  have hne : f ≠ g := by
    rintro rfl
    exact hnot hreached
  have hsymm : Std.Symm (Function.onFun List.Disjoint fun f => (demands should f).map Prod.fst) :=
    ⟨fun _ _ hab _ hb ha => hab ha hb⟩
  exact hids.2.forall hf hg hne hid (mem_demands_of_mem_divergingAt (h g hg) hreached)

/-- Every atom that is reached from a node is turned around, and its other atoms keep their
values. -/
structure Turned (v w : AtomId → Bool) (reached : List AtomId) (demands : List (AtomId × Bool)) :
    Prop where
  turned : ∀ id ∈ reached, w id = !v id
  kept : ∀ id ∈ demands.map Prod.fst, id ∉ reached → w id = v id

/-- What happens to the atoms of a chain happens to those of its operands. -/
theorem Turned.operand (h : ∀ f ∈ fs, f.Proper)
    (hids : ((demandsEach should fs).map Prod.fst).Nodup)
    (hw : Turned v w (divergingEach v should fs) (demandsEach should fs)) (hf : f ∈ fs) :
    Turned v w (f.divergingAt v should) (f.demands should) := by
  refine ⟨fun id hid => hw.turned id (mem_divergingEach hf hid), fun id hid hnot => ?_⟩
  obtain ⟨p, hp, rfl⟩ := List.mem_map.mp hid
  have hmem : p.1 ∈ (demandsEach should fs).map Prod.fst :=
    List.mem_map.mpr ⟨p, mem_demandsEach hf hp, rfl⟩
  exact hw.kept p.1 hmem fun hr => hnot (mem_divergingAt_of_mem_each h hids hf hid hr)

/-- A node that is what it should be stays so, since no atom is reached from it. -/
theorem Turned.value_of_eq (h : f.Proper)
    (hw : Turned v w (f.divergingAt v should) (f.demands should)) (hv : f.value v = should) :
    f.value w = should := by
  refine value_of_corrected h (fun p hp hne => absurd (hw.kept p.1 ?_ ?_) hne) hv
  · exact List.mem_map.mpr ⟨p, hp, rfl⟩
  · rw [divergingAt_of_eq hv]
    exact List.not_mem_nil

/-- If no atom has two leaves, a node is what it should be after the atoms that are reached from
it have been turned around. -/
theorem value_of_turned (h : f.Proper) (hids : ((f.demands should).map Prod.fst).Nodup)
    (hw : Turned v w (f.divergingAt v should) (f.demands should)) : f.value w = should := by
  induction h generalizing should with
  | atom a =>
    by_cases hv : v a = should
    · exact hw.value_of_eq (.atom a) hv
    · have ha := hw.turned a (mem_divergingAt_atom.mpr ⟨hv, rfl⟩)
      rw [value, ha, Bool.eq_not_of_ne hv, Bool.not_not]
  | negation h ih =>
    rw [divergingAt_negation] at hw
    rw [value, ih hids hw, Bool.not_not]
  | @conjunction text fs hlen h ih =>
    by_cases hv : valueAll v fs = should
    · exact hw.value_of_eq (.conjunction hlen h) hv
    · rw [divergingAt_conjunction hv] at hw
      have hfs : ∀ f ∈ fs, f.value w = should := fun f hf =>
        ih f hf (nodup_demands_of_mem hids hf) (hw.operand h hids hf)
      exact (value_eq_of_forall (List.ne_nil_of_length_pos (by omega)) hfs).1
  | @disjunction text fs hlen h ih =>
    by_cases hv : valueAny v fs = should
    · exact hw.value_of_eq (.disjunction hlen h) hv
    · rw [divergingAt_disjunction hv] at hw
      have hfs : ∀ f ∈ fs, f.value w = should := fun f hf =>
        ih f hf (nodup_demands_of_mem hids hf) (hw.operand h hids hf)
      exact (value_eq_of_forall (List.ne_nil_of_length_pos (by omega)) hfs).2

end RuleVerdict.Logic.Formula
