import RuleVerdict.Logic.Walk
import RuleVerdict.Proofs.Logic.Faults

/-!
# When the marked leaves decide

Looking at the marked leaves only is cheaper than evaluating a formula, but it overlooks the later
operands of every `or`. Whether that can hide that the formula is not what it should be, depends
on its shape alone (`Formula.sureAt`).

* `value_of_sureAt`: from a formula of such a shape nothing is hidden.
* `value_of_pretence`: in any other formula it is, under the assignment that gives every leaf the
  value it should have if the leaf is blamed, and the opposite if it is not.
-/

namespace RuleVerdict.Logic

namespace Formula

variable {truth : AtomId → Bool} {f : Formula} {fs : List Formula} {m : Mark}

mutual

/-- Whether a node with the given mark is what it should be as soon as its blamed leaves are. -/
def sureAt (m : Mark) : Formula → Bool
  | .atom _ => true
  | .negation _ f => sureAt m.negate f
  | .conjunction _ fs => if m.should then sureAll m fs else sureSome m fs
  | .disjunction _ fs => m.should && sureFirst m fs

/-- Whether all of some nodes are. -/
def sureAll (m : Mark) : List Formula → Bool
  | [] => true
  | f :: fs => sureAt m f && sureAll m fs

/-- Whether one of some nodes is. -/
def sureSome (m : Mark) : List Formula → Bool
  | [] => false
  | f :: fs => sureAt m f || sureSome m fs

/-- Whether the first of some nodes is. -/
def sureFirst (m : Mark) : List Formula → Bool
  | [] => false
  | f :: _ => sureAt m f

end

theorem sureAll_eq_all (m : Mark) (fs : List Formula) : sureAll m fs = fs.all (sureAt m) := by
  induction fs with
  | nil => rfl
  | cons f fs ih => rw [sureAll, ih, List.all_cons]

theorem sureSome_eq_any (m : Mark) (fs : List Formula) : sureSome m fs = fs.any (sureAt m) := by
  induction fs with
  | nil => rfl
  | cons f fs ih => rw [sureSome, ih, List.any_cons]

theorem leavesAt_subset_leavesEach (hf : f ∈ fs) : f.leavesAt m ⊆ leavesEach m fs := by
  rw [leavesEach_eq_flatMap]
  exact fun l hl => List.mem_flatMap.mpr ⟨f, hf, hl⟩

/-- A formula is what it should be if it is sure and its blamed leaves are what they should be. -/
theorem value_of_sureAt (h : f.Proper) (hs : f.sureAt m = true) (hm : m.blamed = true)
    (hl : ∀ l ∈ f.leavesAt m, l.mark.blamed = true → truth l.id = l.mark.should) :
    f.value truth = m.should := by
  induction h generalizing m with
  | atom id => exact hl ⟨id, m⟩ (List.mem_singleton.mpr rfl) hm
  | negation h ih => rw [value, ih hs hm hl, Mark.negate, Bool.not_not]
  | @conjunction text fs hlen h ih =>
    have hfs : ∀ f ∈ fs, f.sureAt m = true → f.value truth = m.should := fun f hf hs =>
      ih f hf hs hm fun l hlf => hl l (leavesAt_subset_leavesEach hf hlf)
    rw [sureAt, sureAll_eq_all, sureSome_eq_any] at hs
    rw [value, valueAll_eq_all]
    cases hsh : m.should with
    | true =>
      rw [hsh, if_pos rfl, List.all_eq_true] at hs
      exact List.all_eq_true.mpr fun f hf => (hfs f hf (hs f hf)).trans hsh
    | false =>
      rw [hsh, if_neg (by decide), List.any_eq_true] at hs
      obtain ⟨f, hf, hs⟩ := hs
      exact List.all_eq_false.mpr ⟨f, hf, by simp [hfs f hf hs, hsh]⟩
  | @disjunction text fs hlen h ih =>
    rw [sureAt, Bool.and_eq_true] at hs
    obtain ⟨hsh, hs⟩ := hs
    cases fs with
    | nil => cases hs
    | cons f fs =>
      have hf := ih f List.mem_cons_self hs hm fun l hlf => hl l (List.mem_append_left _ hlf)
      rw [value, valueAny, hf, hsh, Bool.true_or]

/-- A formula that is not blamed, or not sure, is not what it should be if its leaves are what
they should be exactly if they are blamed. -/
theorem value_of_pretence (h : f.Proper) (hs : m.blamed = true → f.sureAt m = false)
    (hl : ∀ l ∈ f.leavesAt m, truth l.id = (l.mark.blamed == l.mark.should)) :
    f.value truth = !m.should := by
  induction h generalizing m with
  | atom id =>
    have hm : m.blamed = false := by
      by_contra hm
      cases hs (eq_true_of_ne_false hm)
    rw [value, hl ⟨id, m⟩ (List.mem_singleton.mpr rfl)]
    simp [hm]
  | negation h ih =>
    rw [value, ih hs hl, Bool.not_not]
    rfl
  | @conjunction text fs hlen h ih =>
    have hfs : ∀ f ∈ fs, (m.blamed = true → f.sureAt m = false) → f.value truth = !m.should :=
      fun f hf hs => ih f hf hs fun l hlf => hl l (leavesAt_subset_leavesEach hf hlf)
    have hne : fs ≠ [] := List.ne_nil_of_length_pos (by omega)
    rw [sureAt, sureAll_eq_all, sureSome_eq_any] at hs
    cases hm : m.blamed with
    | false => exact (value_eq_of_forall hne fun f hf => hfs f hf (by simp [hm])).1
    | true =>
      specialize hs hm
      rw [value, valueAll_eq_all]
      cases hsh : m.should with
      | true =>
        rw [hsh, if_pos rfl, List.all_eq_false] at hs
        obtain ⟨f, hf, hs⟩ := hs
        refine List.all_eq_false.mpr ⟨f, hf, ?_⟩
        simp [hfs f hf fun _ => eq_false_of_ne_true hs, hsh]
      | false =>
        rw [hsh, if_neg (by decide), List.any_eq_false] at hs
        refine List.all_eq_true.mpr fun f hf => ?_
        simp [hfs f hf fun _ => eq_false_of_ne_true (hs f hf), hsh]
  | @disjunction text fs hlen h ih =>
    obtain ⟨f, g, fs, rfl⟩ : ∃ f g gs, fs = f :: g :: gs := by
      match fs, hlen with
      | f :: g :: gs, _ => exact ⟨f, g, gs, rfl⟩
    rw [leavesAt, leavesFirst] at hl
    -- The later operands are not blamed, so they are always the opposite of what they should be.
    have hrest : ∀ g' ∈ g :: fs, g'.value truth = !m.should := fun g' hg =>
      ih g' (.tail f hg) (m := m.excuse) nofun fun l hlg =>
        hl l (List.mem_append_right _ (leavesAt_subset_leavesEach hg hlg))
    rw [value, valueAny, (value_eq_of_forall (List.cons_ne_nil g fs) hrest).2]
    cases hsh : m.should with
    | false => exact Bool.or_true _
    | true =>
      have hf := ih f List.mem_cons_self (m := m)
        (fun hm => by simpa [sureAt, sureFirst, hsh] using hs hm)
        (fun l hlf => hl l (List.mem_append_left _ hlf))
      rw [hf, hsh]
      rfl

end Formula

namespace Tree

/-- Whether the root is what it should be as soon as the blamed leaves are. -/
def sure (t : Tree) : Bool := t.root.sureAt .root

/-- No atom is at fault by its marks exactly if the blamed leaves are what they should be. -/
theorem markedFaults_eq_nil_iff {truth : AtomId → Bool} {t : Tree} :
    t.markedFaults truth = [] ↔
      ∀ l ∈ t.root.leaves, l.mark.blamed = true → truth l.id = l.mark.should := by
  simp [markedFaults, Formula.markedFaults, List.filter_eq_nil_iff]

end Tree

end RuleVerdict.Logic
