import RuleVerdict.Proofs.Logic.Frames
import RuleVerdict.Proofs.Logic.Preorder

/-!
# How deep the reading goes

Words are read by recursion, and nothing but the count of their nesting keeps that recursion from
going as deep as there are words. The count is made beforehand, on words that need not spell
anything. Between two calls that make it smaller there are at most two others, for the operands of
`or` and for those of `and`; a call for words without either is over at once, or strips a `not` or a
pair of brackets, which the count has seen. So the recursion is bounded by the count also where
the words are refused, and the branches of the tree are, too.

* `traced`: the reading together with how deep its calls were nested.
* `bounded`: the depth of the calls for any word list.
* `Laid.length_le_height`: the length of a path down the tree.
* `nesting_bounds_recursion`: the bounds for texts within the limit.
-/

namespace RuleVerdict.Logic

open Formula

/-! ## Reading and counting calls -/

/-- Reads parts from left to right up to the first one that is refused, and tells how deep the
deepest of these calls went. -/
def tracedParts {α : Type} (read : α → Nat × Except TreeError Formula) :
    List α → Nat × Except TreeError (List Formula)
  | [] => (0, .ok [])
  | p :: ps =>
    match (read p).2 with
    | .error e => ((read p).1, .error e)
    | .ok f =>
      (max (read p).1 (tracedParts read ps).1, (tracedParts read ps).2.map (f :: ·))

/-- Reads a word list as `build` does, and tells how deep the calls were nested. -/
def traced (ws : List String) : Nat × Except TreeError Formula :=
  match _h : decompose ws with
  | .error e => (1, .error e)
  | .ok (.brackets inner) => ((traced inner).1 + 1, (traced inner).2)
  | .ok (.disjunction parts) =>
    let r := tracedParts (fun p => traced p.1) parts.attach
    (r.1 + 1, r.2.map (.disjunction (Text.join ' ' ws)))
  | .ok (.conjunction parts) =>
    let r := tracedParts (fun p => traced p.1) parts.attach
    (r.1 + 1, r.2.map (.conjunction (Text.join ' ' ws)))
  | .ok (.negation rest) =>
    ((traced rest).1 + 1, (traced rest).2.map (.negation (Text.join ' ' ws)))
  | .ok (.atom id) => (1, .ok (.atom id))
termination_by ws.length
decreasing_by
  · exact length_lt_of_decompose _h (by simp [Decomposition.parts])
  · exact length_lt_of_decompose _h (by simpa [Decomposition.parts] using p.2)
  · exact length_lt_of_decompose _h (by simpa [Decomposition.parts] using p.2)
  · exact length_lt_of_decompose _h (by simp [Decomposition.parts])

/-- How deep the calls for a logic text are nested; too deep a text is refused before the first. -/
def Tree.callDepth (logic : String) : Nat :=
  if nestingLimit < nesting (words logic) then 0 else (Logic.traced (words logic)).1

theorem tracedParts_map {α β : Type} (g : β → α) (read : α → Nat × Except TreeError Formula)
    (ps : List β) : tracedParts (fun p => read (g p)) ps = tracedParts read (ps.map g) := by
  induction ps with
  | nil => rfl
  | cons p ps ih => rw [tracedParts, List.map_cons, tracedParts, ih]

theorem tracedParts_attach (parts : List (List String)) :
    tracedParts (fun p => traced p.1) parts.attach = tracedParts traced parts := by
  rw [tracedParts_map Subtype.val traced, List.attach_map_subtype_val]

/-- The calls follow the decomposition. -/
theorem traced_eq (ws : List String) :
    traced ws =
      match decompose ws with
      | .error e => (1, .error e)
      | .ok (.brackets inner) => ((traced inner).1 + 1, (traced inner).2)
      | .ok (.disjunction parts) => ((tracedParts traced parts).1 + 1,
          (tracedParts traced parts).2.map (.disjunction (Text.join ' ' ws)))
      | .ok (.conjunction parts) => ((tracedParts traced parts).1 + 1,
          (tracedParts traced parts).2.map (.conjunction (Text.join ' ' ws)))
      | .ok (.negation rest) =>
        ((traced rest).1 + 1, (traced rest).2.map (.negation (Text.join ' ' ws)))
      | .ok (.atom id) => (1, .ok (.atom id)) := by
  rw [traced]
  split
  · next h => rw [h]
  · next h => rw [h]
  · next h => rw [h, tracedParts_attach]
  · next h => rw [h, tracedParts_attach]
  · next h => rw [h]
  · next h => rw [h]

theorem snd_tracedParts {ps : List (List String)} (h : ∀ p ∈ ps, (traced p).2 = build p) :
    (tracedParts traced ps).2 = ps.mapM build := by
  induction ps with
  | nil => rfl
  | cons p ps ih =>
    obtain ⟨hp, hps⟩ := List.forall_mem_cons.mp h
    rw [tracedParts, List.mapM_cons, hp, ih hps]
    cases build p with
    | error e => rfl
    | ok f => cases ps.mapM build <;> rfl

/-- What is read does not depend on the calls being counted. -/
theorem snd_traced (ws : List String) : (traced ws).2 = build ws := by
  induction hLength : ws.length using Nat.strongRecOn generalizing ws with
  | _ n ih =>
  rw [traced_eq, build_eq]
  cases hd : decompose ws with
  | error e => rfl
  | ok d =>
    have hParts : ∀ p ∈ d.parts, (traced p).2 = build p := fun p hp =>
      ih p.length (hLength ▸ length_lt_of_decompose hd hp) p rfl
    cases d with
    | brackets inner => exact hParts inner List.mem_cons_self
    | disjunction parts =>
      exact congrArg (Except.map (Formula.disjunction (Text.join ' ' ws))) (snd_tracedParts hParts)
    | conjunction parts =>
      exact congrArg (Except.map (Formula.conjunction (Text.join ' ' ws))) (snd_tracedParts hParts)
    | negation rest =>
      have hRest := hParts rest List.mem_cons_self
      exact congrArg (Except.map (Formula.negation (Text.join ' ' ws))) hRest
    | atom id => rfl

theorem fst_tracedParts_le {ps : List (List String)} {bound : Nat}
    (h : ∀ p ∈ ps, (traced p).1 ≤ bound) : (tracedParts traced ps).1 ≤ bound := by
  induction ps with
  | nil => exact Nat.zero_le bound
  | cons p ps ih =>
    obtain ⟨hp, hps⟩ := List.forall_mem_cons.mp h
    rw [tracedParts]
    split
    · exact hp
    · exact Nat.max_le.mpr ⟨hp, ih hps⟩

/-! ## The calls for any word list -/

/-- How deep the calls for some words are nested: words without `or` outside brackets need one
call less, and words without `and` still one less. These may also have `not`s before them, each of
which was a call. -/
structure Bounded (ws : List String) : Prop where
  any : (traced ws).1 ≤ 3 * nesting ws + 3
  chain : ∀ segs, segments ws = .ok segs → .word "or" ∉ segs → (traced ws).1 ≤ 3 * nesting ws + 2
  operand : ∀ segs, segments ws = .ok segs → .word "or" ∉ segs → .word "and" ∉ segs →
    ∀ n, n + (traced ws).1 ≤ 3 * nestingFrom n ws + 1

variable {ws : List String}

theorem Bounded.of_operand (h : ∀ n, n + (traced ws).1 ≤ 3 * nestingFrom n ws + 1) :
    Bounded ws := by
  have hZero : 0 + (traced ws).1 ≤ 3 * nesting ws + 1 := h 0
  exact ⟨by omega, fun _ _ _ => by omega, fun _ _ _ _ => h⟩

/-- A call that makes no other one. -/
theorem Bounded.of_one (h : (traced ws).1 = 1) : Bounded ws := by
  refine .of_operand fun n => ?_
  have hCount := le_nestingFrom n ws
  omega

/-- Brackets are counted, so there is room for all calls inside. -/
theorem Bounded.brackets {inner : List String} (h : Bounded inner) (hInner : Balanced inner)
    (hTraced : (traced ("(" :: inner ++ [")"])).1 = (traced inner).1 + 1) :
    Bounded ("(" :: inner ++ [")"]) := by
  refine .of_operand fun n => ?_
  have hCount := nesting_lt_nestingFrom_group hInner n
  have hCalls := h.any
  omega

/-- A `not` is counted as long as nothing but a `not` or a bracket follows, and if anything else
follows, then there is no other call. -/
theorem Bounded.negation {rest : List String} (h : Bounded rest) {segs : List Segment}
    (hSegs : segments rest = .ok segs) (hOr : .word "or" ∉ segs) (hAnd : .word "and" ∉ segs)
    (hTraced : (traced ("not" :: rest)).1 = (traced rest).1 + 1) : Bounded ("not" :: rest) := by
  refine .of_operand fun n => ?_
  have hCalls := h.operand segs hSegs hOr hAnd (n + 1)
  rw [nestingFrom_negation]
  omega

theorem segments_of_not_cons {rest : List String} {segs : List Segment}
    (h : segments ("not" :: rest) = .ok segs) :
    ∃ segs', segs = .word "not" :: segs' ∧ segments rest = .ok segs' := by
  obtain ⟨hWords, hClosed⟩ := segments_eq_ok_iff.mp h
  cases segs with
  | nil => cases hWords
  | cons s segs =>
    rw [List.flatMap_cons] at hWords
    cases s with
    | word w =>
      obtain ⟨rfl, hRest⟩ := List.cons.inj hWords
      exact ⟨segs, rfl, segments_eq_ok_iff.mpr ⟨hRest, (List.forall_mem_cons.mp hClosed).2⟩⟩
    | group inner =>
      have hHead := (List.cons.inj hWords).1
      exact absurd hHead (by decide +kernel)

/-- The calls for any word list are bounded by the count of its nesting. -/
theorem bounded (ws : List String) : Bounded ws := by
  induction hLength : ws.length using Nat.strongRecOn generalizing ws with
  | _ n ih =>
  have hTraced := traced_eq ws
  cases hd : decompose ws with
  | error e =>
    rw [hd] at hTraced
    exact .of_one (congrArg Prod.fst hTraced)
  | ok dec =>
    rw [hd] at hTraced
    have hParts : ∀ p ∈ dec.parts, Bounded p := fun p hp =>
      ih p.length (hLength ▸ length_lt_of_decompose hd hp) p rfl
    obtain ⟨segs, hSegs, hDec⟩ := segments_of_decompose hd
    obtain ⟨hWords, hClosed⟩ := segments_eq_ok_iff.mp hSegs
    rcases decomposeSegments_cases hDec with ⟨inner, rfl, rfl⟩ | ⟨hOr, rfl⟩ | ⟨hOr, hAnd, rfl⟩ |
        ⟨hOr, hAnd, hUnary⟩
    · have hInner : Balanced inner := hClosed _ List.mem_cons_self
      have hGroup : "(" :: inner ++ [")"] = ws := by
        simpa [Segment.words] using hWords
      subst hGroup
      exact (hParts inner List.mem_cons_self).brackets hInner (congrArg Prod.fst hTraced)
    · -- Each operand of `or` has no `or` of its own.
      have hCalls : (tracedParts traced (operands "or" segs)).1 ≤ 3 * nesting ws + 2 := by
        refine fst_tracedParts_le fun p hp => ?_
        obtain ⟨r, hr, hCut, -⟩ := segments_of_operand hClosed hp
        have hPart := (hParts p hp).chain r hr hCut
        have hCount := nesting_le_of_mem_operands hClosed (by decide +kernel) hp
        rw [hWords] at hCount
        omega
      have hDepth := congrArg Prod.fst hTraced
      simp only at hDepth
      have hNone : ∀ segs', segments ws = .ok segs' → .word "or" ∈ segs' := by
        intro segs' hSame
        cases hSegs.symm.trans hSame
        exact hOr
      exact ⟨by omega, fun segs' hSame hNot => absurd (hNone segs' hSame) hNot,
        fun segs' hSame hNot => absurd (hNone segs' hSame) hNot⟩
    · -- Each operand of `and` has neither `and` nor `or`.
      have hCalls : (tracedParts traced (operands "and" segs)).1 ≤ 3 * nesting ws + 1 := by
        refine fst_tracedParts_le fun p hp => ?_
        obtain ⟨r, hr, hCut, hSub⟩ := segments_of_operand hClosed hp
        have hPart := (hParts p hp).operand r hr (fun hMem => hOr (hSub _ hMem)) hCut 0
        have hCount := nesting_le_of_mem_operands hClosed (by decide +kernel) hp
        have hSame : nestingFrom 0 p = nesting p := rfl
        rw [hWords] at hCount
        omega
      have hDepth := congrArg Prod.fst hTraced
      simp only at hDepth
      refine ⟨by omega, fun _ _ _ => by omega, fun segs' hSame _ hNone => ?_⟩
      cases hSegs.symm.trans hSame
      exact absurd hAnd hNone
    · rcases decomposeUnary_cases hUnary with ⟨rest, rfl, rfl⟩ | ⟨id, rfl, rfl⟩
      · obtain ⟨segs', rfl, hRest⟩ := segments_of_not_cons hSegs
        exact (hParts rest List.mem_cons_self).negation hRest (fun hMem => hOr (.tail _ hMem))
          (fun hMem => hAnd (.tail _ hMem)) (congrArg Prod.fst hTraced)
      · exact .of_one (congrArg Prod.fst hTraced)

/-! ## Paths in the tree -/

mutual

/-- The number of nodes on the longest path from the first node of a formula downwards. -/
def Formula.height : Formula → Nat
  | .atom _ => 1
  | .negation _ f => 1 + f.height
  | .conjunction _ fs => 1 + heightList fs
  | .disjunction _ fs => 1 + heightList fs

/-- The greatest height of some formulas. -/
def Formula.heightList : List Formula → Nat
  | [] => 0
  | f :: fs => max f.height (heightList fs)

end

theorem Formula.height_eq (f : Formula) : f.height = 1 + heightList f.operands := by
  cases f <;> simp [height, heightList, operands]

theorem Formula.height_le_of_mem {fs : List Formula} {g : Formula} (h : g ∈ fs) :
    g.height ≤ heightList fs := by
  induction fs with
  | nil => cases h
  | cons f fs ih =>
    rw [heightList]
    rcases List.mem_cons.mp h with rfl | h
    · exact Nat.le_max_left ..
    · exact Nat.le_trans (ih h) (Nat.le_max_right ..)

/-- A path from the node of a formula downwards stays among the nodes of the formula. -/
theorem Laid.length_le_height {nodes : Array Node} {p : Nat} {m : Mark} {f : Formula}
    (h : Laid nodes p m f) {path : List Nat} (hPath : (p :: path).IsChain (IsChild nodes)) :
    (p :: path).length ≤ f.height := by
  induction path generalizing p m f with
  | nil =>
    rw [f.height_eq, List.length_singleton]
    omega
  | cons c path ih =>
    obtain ⟨hChild, hRest⟩ := List.isChain_cons_cons.mp hPath
    obtain ⟨k, g, hg, rfl⟩ := h.isChild_iff.mp hChild
    have hLength := ih (h.operand hg) hRest
    have hHeight := height_le_of_mem (List.mem_of_getElem? hg)
    rw [f.height_eq, List.length_cons]
    omega

mutual

/-- Between two `not`s or brackets of an expression there are one disjunction and one conjunction
at most. -/
theorem OrChain.height_formula_le : (d : OrChain Numeral) → d.formula.height ≤ 2 * d.depth + 3
  | .last c => by
    have hLess := c.height_formula_le
    simp only [OrChain.formula, OrChain.depth]
    omega
  | .or c d => by
    have hFirst := c.height_formula_le
    have hRest := d.heightList_formulas_le
    simp only [OrChain.formula, OrChain.depth, height, heightList]
    omega

theorem OrChain.heightList_formulas_le : (d : OrChain Numeral) →
    heightList d.formulas ≤ 2 * d.depth + 2
  | .last c => by
    have hOnly := c.height_formula_le
    simp only [OrChain.formulas, OrChain.depth, heightList]
    omega
  | .or c d => by
    have hFirst := c.height_formula_le
    have hRest := d.heightList_formulas_le
    simp only [OrChain.formulas, OrChain.depth, heightList]
    omega

theorem AndChain.height_formula_le : (c : AndChain Numeral) → c.formula.height ≤ 2 * c.depth + 2
  | .last u => by
    have hLess := u.height_formula_le
    simp only [AndChain.formula, AndChain.depth]
    omega
  | .and u c => by
    have hFirst := u.height_formula_le
    have hRest := c.heightList_formulas_le
    simp only [AndChain.formula, AndChain.depth, height, heightList]
    omega

theorem AndChain.heightList_formulas_le : (c : AndChain Numeral) →
    heightList c.formulas ≤ 2 * c.depth + 1
  | .last u => by
    have hOnly := u.height_formula_le
    simp only [AndChain.formulas, AndChain.depth, heightList]
    omega
  | .and u c => by
    have hFirst := u.height_formula_le
    have hRest := c.heightList_formulas_le
    simp only [AndChain.formulas, AndChain.depth, heightList]
    omega

theorem Operand.height_formula_le : (u : Operand Numeral) → u.formula.height ≤ 2 * u.depth + 1
  | .atom _ => Nat.le_refl 1
  | .not u => by
    have hLess := u.height_formula_le
    simp only [Operand.formula, Operand.depth, height]
    omega
  | .brackets d => by
    have hInner := d.height_formula_le
    simp only [Operand.formula, Operand.depth]
    omega

end

theorem Tree.height_root_le {logic : String} {t : Tree} (h : Tree.build logic = .ok t) :
    t.root.height ≤ 2 * nesting (words logic) + 3 := by
  obtain ⟨-, f, hf, rfl⟩ := Tree.build_eq_ok_iff.mp h
  obtain ⟨d, hd⟩ := exists_words_of_build hf
  rw [← hd, d.build_words, Except.ok.injEq] at hf
  rw [← hd, nesting_words, ← hf]
  exact d.height_formula_le

/-- A path in a tree, wherever it begins, is at most as long as the tree is high. -/
theorem Tree.length_path_le (t : Tree) {path : List Nat}
    (hPath : path.IsChain (IsChild t.nodes)) : path.length ≤ t.root.height := by
  have hRoot := t.root.height_eq
  cases path with
  | nil => exact Nat.zero_le _
  | cons p path =>
    cases path with
    | nil =>
      rw [List.length_singleton]
      omega
    | cons c path =>
      obtain ⟨n, hn, -⟩ := (List.isChain_cons_cons.mp hPath).1
      have hp := (Array.getElem?_eq_some_iff.mp hn).1
      have hSize := t.holds.size
      have hInherit : ∀ f : Formula, f.height ≤ t.root.height →
          ∀ g ∈ f.operands, g.height ≤ t.root.height := by
        intro f hf g hg
        have hLess := height_le_of_mem hg
        rw [f.height_eq] at hf
        omega
      obtain ⟨g, m, hLaid, hHeight, -⟩ := t.holds.laid.exists_of_lt hInherit (Nat.le_refl _)
        (Nat.zero_le p) (by omega)
      exact Nat.le_trans (hLaid.length_le_height hPath) hHeight

/-- **The limit on the nesting bounds the recursion.** Whatever the words are, the calls that read
them are nested at most three times as deep as the count says, and three more, so that reading a
text within the limit takes at most 771. In a tree that is built, no path has more than twice as
many nodes, and three more. And on every word list the count stays the sum of what the open
brackets have counted, so that what a closing bracket takes back is never more than there is. -/
theorem nesting_bounds_recursion :
    (∀ ws, (traced ws).2 = build ws ∧ (traced ws).1 ≤ 3 * nesting ws + 3) ∧
    (∀ logic, Tree.callDepth logic ≤ 771) ∧
    (∀ logic t, Tree.build logic = .ok t →
      ∀ path : List Nat, path.IsChain (IsChild t.nodes) →
        path.length ≤ 2 * nesting (words logic) + 3 ∧ path.length ≤ 515) ∧
    ∀ ws : List String,
      (ws.foldl Nesting.step .start).depth =
        Nesting.total (ws.foldl Nesting.step .start).frames ∧
      (ws.foldl Nesting.step .start).frames.head?.getD 0 ≤
        (ws.foldl Nesting.step .start).depth := by
  refine ⟨fun ws => ⟨snd_traced ws, (bounded ws).any⟩, fun logic => ?_,
    fun logic t h path hPath => ?_,
    fun ws => ⟨Nesting.summed_foldl ws, (Nesting.summed_foldl ws).head_le⟩⟩
  · have hCalls := (bounded (words logic)).any
    have hLimit : nestingLimit = 256 := rfl
    rw [Tree.callDepth]
    split
    · exact Nat.zero_le _
    · omega
  · have hLength := t.length_path_le hPath
    have hHeight := Tree.height_root_le h
    have hDepth : nesting (words logic) ≤ 256 := (Tree.build_eq_ok_iff.mp h).1
    omega

theorem recursion_of_open_bracket :
    nesting ["not", "(", "or", "not"] = 3 ∧ (traced ["not", "(", "or", "not"]).1 ≤ 12 ∧
      ∃ t, Tree.build "not 7" = .ok t ∧
        ∀ path : List Nat, path.IsChain (IsChild t.nodes) → path.length ≤ 5 := by
  have hCount : nesting ["not", "(", "or", "not"] = 3 := by decide +kernel
  have hCalls := (nesting_bounds_recursion.1 ["not", "(", "or", "not"]).2
  rw [hCount] at hCalls
  have hWords : words "not 7" =
      (OrChain.last (.last (.not (.atom ⟨"7", 7, by decide +kernel⟩)))).words := by
    decide +kernel
  have hBuild := Tree.build_eq_ok_of_words hWords (by decide)
  have hOne : nesting (words "not 7") = 1 := by decide +kernel
  refine ⟨hCount, hCalls, _, hBuild, fun path hPath => ?_⟩
  have hLength := (nesting_bounds_recursion.2.2.1 _ _ hBuild path hPath).1
  rwa [hOne] at hLength

end RuleVerdict.Logic
