import RuleVerdict.Proofs.Logic.Depth

/-!
# The count over any word list

The count of nesting is made on every word list, also on one whose brackets do not match. It
remembers what each open bracket has counted, and never takes back more than that. Words with
balanced brackets count at least as much inside other words as alone, and so the operands of a
chain never count more than the chain, a pair of brackets counts one more than its contents, and
every `not` in front counts.

* `Nesting.summed_foldl`: the depth is the sum of what the open brackets have counted.
* `Within.foldl`: what is counted inside other words, against what is counted alone.
* `nestingFrom`: the count behind some `not`s.
* `nesting_le_of_mem_operands`, `nesting_lt_nestingFrom_group`: the parts of a word list count less.
-/

namespace RuleVerdict.Logic

namespace Nesting

variable {s a b : Nesting} {w : String}

theorem step_opening (s : Nesting) :
    s.step "(" = note { s with
      frames := (s.negations + 1) :: s.frames
      depth := s.depth + (s.negations + 1)
      negations := 0 } := by
  simp only [step, if_neg (show ¬("(" = "not") by decide +kernel), if_pos]

theorem step_closing (s : Nesting) :
    s.step ")" = note { s with
      frames := s.frames.tail
      depth := s.depth - s.frames.head?.getD 0 } := by
  simp only [step, if_neg (show ¬(")" = "not") by decide +kernel),
    if_neg (show ¬(")" = "(") by decide +kernel), if_pos]

theorem step_negation (s : Nesting) :
    s.step "not" = note { s with negations := s.negations + 1 } := by
  simp only [step, if_pos]

theorem step_other (s : Nesting) (hNot : w ≠ "not") (hOpen : w ≠ "(") (hClose : w ≠ ")") :
    s.step w = note { s with negations := 0 } := by
  simp only [step, if_neg hNot, if_neg hOpen, if_neg hClose]

theorem deepest_foldl (s : Nesting) (ws : List String) :
    s.deepest ≤ (ws.foldl step s).deepest := by
  induction ws generalizing s with
  | nil => exact Nat.le_refl _
  | cons w ws ih => exact Nat.le_trans (deepest_step s w) (ih (s.step w))

/-! ## Nothing is taken back that was not counted -/

/-- What some open brackets have counted together. -/
def total : List Nat → Nat
  | [] => 0
  | n :: ns => n + total ns

/-- The depth is what the open brackets have counted together. -/
def Summed (s : Nesting) : Prop := s.depth = total s.frames

theorem Summed.head_le (h : s.Summed) : s.frames.head?.getD 0 ≤ s.depth := by
  rw [h]
  cases s.frames with
  | nil => exact Nat.le_refl 0
  | cons n ns => exact Nat.le_add_right n (total ns)

theorem Summed.step (h : s.Summed) (w : String) : (s.step w).Summed := by
  have hHead := h.head_le
  simp only [Summed] at h
  by_cases hNot : w = "not"
  · rw [hNot, step_negation]
    exact h
  by_cases hOpen : w = "("
  · rw [hOpen, step_opening]
    simp only [Summed, note, total]
    omega
  by_cases hClose : w = ")"
  · rw [hClose, step_closing]
    simp only [Summed, note]
    cases hFrames : s.frames with
    | nil => simp [h, hFrames, total]
    | cons n ns => simp [h, hFrames, total]
  · rw [step_other s hNot hOpen hClose]
    exact h

theorem Summed.foldl (h : s.Summed) (ws : List String) : (ws.foldl Nesting.step s).Summed := by
  induction ws generalizing s with
  | nil => exact h
  | cons w ws ih => exact ih (h.step w)

/-- On no word list does the depth differ from the sum of what the open brackets have counted. -/
theorem summed_foldl (ws : List String) : (ws.foldl step start).Summed :=
  Summed.foldl (show start.Summed from rfl) ws

/-! ## Words inside other words -/

/-- The count `b` is the count `a` with the brackets `base` open before, which count `outer`. -/
structure Within (base : List Nat) (outer : Nat) (a b : Nesting) : Prop where
  frames : b.frames = a.frames ++ base
  depth : b.depth = a.depth + outer
  negations : b.negations = a.negations
  deepest : a.deepest + outer ≤ b.deepest

variable {base : List Nat} {outer : Nat}

theorem Within.note (h : Within base outer a b) : Within base outer a.note b.note := by
  refine ⟨h.frames, h.depth, h.negations, ?_⟩
  have hDepth := h.depth
  have hNegations := h.negations
  have hDeepest := h.deepest
  simp only [Nesting.note]
  omega

/-- Both counts go along as long as none of the brackets open before is closed. -/
theorem Within.step (h : Within base outer a b) (ha : a.Summed)
    (hw : w = ")" → a.frames ≠ []) : Within base outer (a.step w) (b.step w) := by
  have hFrames := h.frames
  have hDepth := h.depth
  have hNegations := h.negations
  by_cases hNot : w = "not"
  · rw [hNot, step_negation, step_negation]
    refine Within.note ⟨hFrames, hDepth, ?_, h.deepest⟩
    simp only [hNegations]
  by_cases hOpen : w = "("
  · rw [hOpen, step_opening, step_opening]
    refine Within.note ⟨?_, ?_, rfl, h.deepest⟩
    · simp only [hFrames, hNegations, List.cons_append]
    · simp only [hDepth, hNegations]
      omega
  by_cases hClose : w = ")"
  · rw [hClose, step_closing, step_closing]
    have hHead := ha.head_le
    cases hTop : a.frames with
    | nil => exact absurd hTop (hw hClose)
    | cons n ns =>
      rw [hTop] at hFrames hHead
      simp only [List.head?_cons, Option.getD_some] at hHead
      refine Within.note ⟨?_, ?_, hNegations, h.deepest⟩
      · simp only [hFrames, List.cons_append, List.tail_cons]
      · simp only [hFrames, hDepth, List.cons_append, List.head?_cons, Option.getD_some]
        omega
  · rw [step_other a hNot hOpen hClose, step_other b hNot hOpen hClose]
    exact Within.note ⟨hFrames, hDepth, rfl, h.deepest⟩

theorem frames_step (hOpen : w ≠ "(") (hClose : w ≠ ")") : (a.step w).frames = a.frames := by
  by_cases hNot : w = "not"
  · rw [hNot, step_negation]
    rfl
  · rw [step_other a hNot hOpen hClose]
    rfl

theorem Within.foldl {p : List String} {m : Nat} (h : Within base outer a b) (ha : a.Summed)
    (hp : openAfter? a.frames.length p = some m) :
    Within base outer (p.foldl Nesting.step a) (p.foldl Nesting.step b) ∧
      (p.foldl Nesting.step a).frames.length = m := by
  induction p generalizing a b with
  | nil => exact ⟨h, Option.some.inj hp⟩
  | cons w p ih =>
    have hSummed := ha.step w
    simp only [openAfter?] at hp
    by_cases hOpen : w = "("
    · rw [if_pos hOpen] at hp
      have hLength : (a.step w).frames.length = a.frames.length + 1 := by
        rw [hOpen, step_opening]
        rfl
      refine ih (h.step ha fun hClose => ?_) hSummed (hLength ▸ hp)
      rw [hOpen] at hClose
      exact absurd hClose (by decide +kernel)
    by_cases hClose : w = ")"
    · rw [if_neg hOpen, if_pos hClose] at hp
      -- The words never close a bracket they did not open, so the frame taken off is one of theirs.
      cases hTop : a.frames with
      | nil =>
        rw [hTop] at hp
        cases hp
      | cons n ns =>
        rw [hTop] at hp
        have hLength : (a.step w).frames.length = ns.length := by
          rw [hClose, step_closing, hTop]
          rfl
        have hOne := h.step ha (w := w) fun _ => by simp [hTop]
        exact ih hOne hSummed (hLength ▸ hp)
    · rw [if_neg hOpen, if_neg hClose] at hp
      have hOne := h.step ha (w := w) fun he => absurd he hClose
      exact ih hOne hSummed ((frames_step hOpen hClose (a := a)) ▸ hp)

/-- Balanced words leave the brackets that are open, and count there what they count alone. -/
theorem Within.of_balanced {p : List String} (hp : Balanced p) (hs : s.Noted)
    (hZero : s.negations = 0) :
    (p.foldl Nesting.step s).frames = s.frames ∧ (p.foldl Nesting.step s).depth = s.depth ∧
      nesting p + s.depth ≤ (p.foldl Nesting.step s).deepest := by
  have hStart : Within s.frames s.depth start s := by
    refine ⟨rfl, (Nat.zero_add _).symm, hZero, ?_⟩
    simp only [Noted] at hs
    simp only [start]
    omega
  obtain ⟨hRun, hLength⟩ := hStart.foldl rfl hp
  have hFrames := List.length_eq_zero_iff.mp hLength
  have hDepth : (p.foldl Nesting.step start).depth = 0 := by
    have hSum := summed_foldl p
    rw [Summed, hFrames] at hSum
    exact hSum
  refine ⟨?_, ?_, hRun.deepest⟩
  · rw [hRun.frames, hFrames, List.nil_append]
  · rw [hRun.depth, hDepth, Nat.zero_add]

end Nesting

open Nesting

/-! ## Parts of a word list -/

/-- The count over words in front of which some `not`s stand. -/
def nestingFrom (negations : Nat) (ws : List String) : Nat :=
  (ws.foldl step ⟨[], 0, negations, negations⟩).deepest

theorem le_nestingFrom (n : Nat) (ws : List String) : n ≤ nestingFrom n ws :=
  deepest_foldl ⟨[], 0, n, n⟩ ws

theorem nestingFrom_negation (n : Nat) (ws : List String) :
    nestingFrom n ("not" :: ws) = nestingFrom (n + 1) ws := by
  have hStep : step ⟨[], 0, n, n⟩ "not" = ⟨[], 0, n + 1, n + 1⟩ := by
    rw [step_negation]
    simp only [note, mk.injEq, true_and]
    omega
  rw [nestingFrom, List.foldl_cons, hStep]
  rfl

/-- A pair of brackets counts one more than its contents, and so does every `not` before it. -/
theorem nesting_lt_nestingFrom_group {inner : List String} (h : Balanced inner) (n : Nat) :
    nesting inner + n + 1 ≤ nestingFrom n ("(" :: inner ++ [")"]) := by
  have hStep : (step ⟨[], 0, n, n⟩ "(").depth = n + 1 := by
    rw [step_opening]
    exact Nat.zero_add _
  have hZero : (step ⟨[], 0, n, n⟩ "(").negations = 0 := by
    rw [step_opening]
    rfl
  have hInner := (Within.of_balanced h (noted_step ⟨[], 0, n, n⟩ "(") hZero).2.2
  rw [hStep] at hInner
  have hLast := deepest_foldl (inner.foldl step (step ⟨[], 0, n, n⟩ "(")) [")"]
  rw [nestingFrom, List.cons_append, List.foldl_cons, List.foldl_append]
  omega

theorem nesting_le_append (ps rest : List String) : nesting ps ≤ nesting (ps ++ rest) := by
  rw [nesting, nesting, List.foldl_append]
  exact deepest_foldl _ rest

/-- Behind a word that is neither `not` nor a bracket the count begins anew. -/
theorem nesting_le_of_cut (before : List String) {ps : List String} {cut : String}
    (hPs : Balanced ps) (hNot : cut ≠ "not") (hOpen : cut ≠ "(") (hClose : cut ≠ ")")
    (rest : List String) : nesting ps ≤ nesting (before ++ cut :: (ps ++ rest)) := by
  have hZero : ((before.foldl step start).step cut).negations = 0 := by
    rw [step_other _ hNot hOpen hClose]
    rfl
  have hPart := (Within.of_balanced hPs (noted_step (before.foldl step start) cut) hZero).2.2
  have hLast := deepest_foldl (ps.foldl step ((before.foldl step start).step cut)) rest
  rw [nesting, nesting, List.foldl_append, List.foldl_cons, List.foldl_append]
  rw [nesting] at hPart
  omega

/-- An operand counts at most as much as the chain it is cut from. -/
theorem nesting_le_of_mem_operands {cut : String} {segs : List Segment}
    (hClosed : ∀ s ∈ segs, s.Closed) (hNot : cut ≠ "not") {p : List String}
    (hp : p ∈ operands cut segs) :
    nesting p ≤ nesting (segs.flatMap Segment.words) := by
  obtain ⟨r, after, qs, hOperands, hSegs, -, hRest⟩ := operands_split cut segs
  rw [hOperands] at hp
  rcases List.mem_cons.mp hp with rfl | hp
  · rw [hSegs, List.flatMap_append]
    exact nesting_le_append _ _
  · obtain ⟨before, r', after', hSplit, rfl, -⟩ := hRest p hp
    rw [hSplit] at hClosed ⊢
    obtain ⟨hWord, hClosed⟩ := List.forall_mem_cons.mp (List.forall_mem_append.mp hClosed).2
    have hPart := (List.forall_mem_append.mp hClosed).1
    rw [List.flatMap_append, List.flatMap_cons, List.flatMap_append]
    exact nesting_le_of_cut _ (balanced_flatMap_words hPart) hNot hWord.1 hWord.2 _

end RuleVerdict.Logic
