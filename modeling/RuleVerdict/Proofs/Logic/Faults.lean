import RuleVerdict.Logic.Blame
import Mathlib.Tactic.ByContra

/-!
# Faults and values

A formula that was read from a text has at least two operands in each chain (`Formula.Proper`).
For such a formula the search along diverging nodes finds an atom exactly when the formula is not
what it should be. The faults among the marked leaves, on the other hand, depend on the blamed
leaves only, and these are found by following the first operand of each `or` (`Formula.charges`).

* `divergingAt_eq_nil_iff`: no atom is reached exactly if the value is as it should be.
* `mem_markedFaults_iff`, `charges_disjunction`: which atoms are at fault by their marks.
-/

namespace RuleVerdict.Logic.Formula

variable {truth : AtomId → Bool} {text : String} {f : Formula} {fs : List Formula} {should : Bool}

/-- Every chain has at least two operands. -/
inductive Proper : Formula → Prop
  | atom (id : AtomId) : Proper (.atom id)
  | negation {text : String} {f : Formula} (h : f.Proper) : Proper (.negation text f)
  | conjunction {text : String} {fs : List Formula} (hlen : 2 ≤ fs.length)
      (h : ∀ f ∈ fs, f.Proper) : Proper (.conjunction text fs)
  | disjunction {text : String} {fs : List Formula} (hlen : 2 ≤ fs.length)
      (h : ∀ f ∈ fs, f.Proper) : Proper (.disjunction text fs)

/-! ## Operands as lists -/

theorem valueAll_eq_all (truth : AtomId → Bool) (fs : List Formula) :
    valueAll truth fs = fs.all (value truth) := by
  induction fs with
  | nil => rfl
  | cons f fs ih => rw [valueAll, ih, List.all_cons]

theorem valueAny_eq_any (truth : AtomId → Bool) (fs : List Formula) :
    valueAny truth fs = fs.any (value truth) := by
  induction fs with
  | nil => rfl
  | cons f fs ih => rw [valueAny, ih, List.any_cons]

theorem divergingEach_eq_flatMap (truth : AtomId → Bool) (should : Bool) (fs : List Formula) :
    divergingEach truth should fs = fs.flatMap (divergingAt truth should) := by
  induction fs with
  | nil => rfl
  | cons f fs ih => rw [divergingEach, ih, List.flatMap_cons]

theorem leavesEach_eq_flatMap (m : Mark) (fs : List Formula) :
    leavesEach m fs = fs.flatMap (leavesAt m) := by
  induction fs with
  | nil => rfl
  | cons f fs ih => rw [leavesEach, ih, List.flatMap_cons]

/-- A chain whose operands are all worth the same is worth that too. -/
theorem value_eq_of_forall (hne : fs ≠ []) (h : ∀ f ∈ fs, f.value truth = should) :
    valueAll truth fs = should ∧ valueAny truth fs = should := by
  obtain ⟨f, hf⟩ := List.exists_mem_of_ne_nil fs hne
  rw [valueAll_eq_all, valueAny_eq_any]
  cases should with
  | true => exact ⟨List.all_eq_true.mpr h, List.any_eq_true.mpr ⟨f, hf, h f hf⟩⟩
  | false =>
    refine ⟨List.all_eq_false.mpr ⟨f, hf, by simp [h f hf]⟩, List.any_eq_false.mpr ?_⟩
    intro g hg
    simp [h g hg]

/-! ## The search along diverging nodes -/

/-- No atom is reached from a node exactly if the node is what it should be. -/
theorem divergingAt_eq_nil_iff (h : f.Proper) (should : Bool) :
    f.divergingAt truth should = [] ↔ f.value truth = should := by
  refine ⟨fun hnil => ?_, divergingAt_of_eq⟩
  by_contra hne
  induction h generalizing should with
  | atom id => simp [divergingAt, show truth id ≠ should from hne] at hnil
  | negation h ih =>
    rw [divergingAt, if_neg hne] at hnil
    refine ih (!should) hnil fun he => hne ?_
    rw [value, he, Bool.not_not]
  | conjunction hlen h ih =>
    rw [divergingAt, if_neg hne, divergingEach_eq_flatMap, List.flatMap_eq_nil_iff] at hnil
    refine hne (value_eq_of_forall ?_ fun f hf => ?_).1
    · exact List.ne_nil_of_length_pos (by omega)
    · by_contra hf'
      exact ih f hf should (hnil f hf) hf'
  | disjunction hlen h ih =>
    rw [divergingAt, if_neg hne, divergingEach_eq_flatMap, List.flatMap_eq_nil_iff] at hnil
    refine hne (value_eq_of_forall ?_ fun f hf => ?_).2
    · exact List.ne_nil_of_length_pos (by omega)
    · by_contra hf'
      exact ih f hf should (hnil f hf) hf'

/-- The search finds nothing exactly if the formula is true. -/
theorem divergingFaults_eq_nil_iff (h : f.Proper) :
    f.divergingFaults truth = [] ↔ f.value truth = true := divergingAt_eq_nil_iff h true

theorem exists_leaf_of_mem_first {m : Mark} {l : AtomId} (hf : f ∈ fs)
    (h : ∀ m : Mark, ∃ r ∈ f.leavesAt m, r.id = l) : ∃ r ∈ leavesFirst m fs, r.id = l := by
  cases fs with
  | nil => cases hf
  | cons g fs =>
    rw [leavesFirst, leavesEach_eq_flatMap]
    rcases List.mem_cons.mp hf with rfl | hf
    · obtain ⟨r, hr, hid⟩ := h m
      exact ⟨r, List.mem_append_left _ hr, hid⟩
    · obtain ⟨r, hr, hid⟩ := h m.excuse
      exact ⟨r, List.mem_append_right _ (List.mem_flatMap.mpr ⟨f, hf, hr⟩), hid⟩

/-- What is reached are leaves of the formula. -/
theorem exists_leaf_of_mem_divergingAt (h : f.Proper) {id : AtomId}
    (hid : id ∈ f.divergingAt truth should) (m : Mark) : ∃ l ∈ f.leavesAt m, l.id = id := by
  induction h generalizing should m with
  | atom a =>
    rw [divergingAt] at hid
    split at hid
    · cases hid
    · exact ⟨⟨a, m⟩, List.mem_singleton.mpr rfl, (List.mem_singleton.mp hid).symm⟩
  | negation h ih =>
    rw [divergingAt] at hid
    split at hid
    · cases hid
    · exact ih hid m.negate
  | conjunction hlen h ih =>
    rw [divergingAt] at hid
    split at hid
    · cases hid
    · rw [divergingEach_eq_flatMap] at hid
      obtain ⟨f, hf, hid⟩ := List.mem_flatMap.mp hid
      obtain ⟨l, hl, hlid⟩ := ih f hf hid m
      rw [leavesAt, leavesEach_eq_flatMap]
      exact ⟨l, List.mem_flatMap.mpr ⟨f, hf, hl⟩, hlid⟩
  | disjunction hlen h ih =>
    rw [divergingAt] at hid
    split at hid
    · cases hid
    · rw [divergingEach_eq_flatMap] at hid
      obtain ⟨f, hf, hid⟩ := List.mem_flatMap.mp hid
      exact exists_leaf_of_mem_first hf (ih f hf hid)

/-! ## The marked leaves -/

/-- The blamed leaves below a blamed node, with the values that they should have. -/
def charges (should : Bool) (f : Formula) : List (AtomId × Bool) :=
  ((f.leavesAt ⟨should, true⟩).filter fun l => l.mark.blamed).map fun l => (l.id, l.mark.should)

/-- An atom is at fault by its marks exactly if it has a blamed leaf that it is not worth. -/
theorem mem_markedFaults_iff {id : AtomId} :
    id ∈ f.markedFaults truth ↔ ∃ s, (id, s) ∈ f.charges true ∧ truth id ≠ s := by
  simp only [markedFaults, charges, leaves, Mark.root, List.mem_map, List.mem_filter,
    Bool.and_eq_true, bne_iff_ne, Prod.mk.injEq]
  constructor
  · rintro ⟨l, ⟨hl, hb, hs⟩, rfl⟩
    exact ⟨l.mark.should, ⟨l, ⟨hl, hb⟩, rfl, rfl⟩, hs⟩
  · rintro ⟨s, ⟨l, ⟨hl, hb⟩, rfl, rfl⟩, hs⟩
    exact ⟨l, ⟨hl, hb, hs⟩, rfl⟩

/-- What is charged are leaves of the formula. -/
theorem exists_leaf_of_mem_charges {id : AtomId} {s : Bool} (h : (id, s) ∈ f.charges true) :
    ∃ l ∈ f.leaves, l.id = id := by
  obtain ⟨l, hl, heq⟩ := List.mem_map.mp h
  cases heq
  exact ⟨l, (List.mem_filter.mp hl).1, rfl⟩

theorem not_blamed_of_mem_leavesAt (h : f.Proper) (should : Bool) :
    ∀ l ∈ f.leavesAt ⟨should, false⟩, l.mark.blamed = false := by
  induction h generalizing should with
  | atom id =>
    intro l hl
    rw [List.mem_singleton.mp hl]
  | negation h ih => exact ih (!should)
  | conjunction hlen h ih =>
    intro l hl
    rw [leavesAt, leavesEach_eq_flatMap] at hl
    obtain ⟨f, hf, hl⟩ := List.mem_flatMap.mp hl
    exact ih f hf should l hl
  | @disjunction text fs hlen h ih =>
    intro l hl
    cases fs with
    | nil => cases hl
    | cons f fs =>
      rw [leavesAt, leavesFirst, leavesEach_eq_flatMap] at hl
      rcases List.mem_append.mp hl with hl | hl
      · exact ih f List.mem_cons_self should l hl
      · obtain ⟨g, hg, hl⟩ := List.mem_flatMap.mp hl
        exact ih g (.tail f hg) should l hl

theorem charges_atom (id : AtomId) : charges should (.atom id) = [(id, should)] := rfl

theorem charges_negation : charges should (.negation text f) = charges (!should) f := rfl

theorem charges_conjunction :
    charges should (.conjunction text fs) = fs.flatMap (charges should) := by
  unfold charges
  rw [leavesAt, leavesEach_eq_flatMap, List.filter_flatMap, List.map_flatMap]

/-- Of a disjunction only the first operand is charged. -/
theorem charges_disjunction (h : ∀ g ∈ fs, g.Proper) :
    charges should (.disjunction text (f :: fs)) = charges should f := by
  unfold charges
  have hrest : (leavesEach ⟨should, false⟩ fs).filter (fun l => l.mark.blamed) = [] := by
    rw [List.filter_eq_nil_iff, leavesEach_eq_flatMap]
    intro l hl
    obtain ⟨g, hg, hl⟩ := List.mem_flatMap.mp hl
    simp [not_blamed_of_mem_leavesAt (h g hg) should l hl]
  rw [leavesAt, leavesFirst, List.filter_append, show Mark.excuse ⟨should, true⟩ = ⟨should, false⟩
    from rfl, hrest, List.append_nil]

end RuleVerdict.Logic.Formula
