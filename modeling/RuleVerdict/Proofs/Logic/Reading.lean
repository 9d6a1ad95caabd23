import RuleVerdict.Proofs.Logic.Brackets
import RuleVerdict.Proofs.Logic.Grammar

/-!
# Reading words into formulas

Words are read into a formula from the outside in, by splitting them at the connectives outside
brackets. Nothing but the grammar comes out of that.

* `OrChain.build_words`: the words of an expression are read into its formula.
* `exists_words_of_build`: whatever is read is the words of an expression.
-/

namespace RuleVerdict.Logic

/-! ## The segments of an expression -/

mutual

/-- The words and groups outside the brackets of an expression. -/
@[simp]
def OrChain.segments : OrChain Numeral → List Segment
  | .last c => c.segments
  | .or c d => c.segments ++ .word "or" :: d.segments

/-- The words and groups of a chain of `and`. -/
@[simp]
def AndChain.segments : AndChain Numeral → List Segment
  | .last u => u.segments
  | .and u c => u.segments ++ .word "and" :: c.segments

/-- The words and groups of an operand. -/
@[simp]
def Operand.segments : Operand Numeral → List Segment
  | .atom n => [.word n.word]
  | .not u => .word "not" :: u.segments
  | .brackets d => [.group d.words]

end

/-- A numeral is none of the words with a meaning of their own. -/
theorem Numeral.word_ne (n : Numeral) {w : String} (h : atomOfWord? w = none) : n.word ≠ w := by
  intro e
  have hn := n.reads
  rw [e, h] at hn
  cases hn

mutual

theorem OrChain.flatMap_words_segments : (d : OrChain Numeral) →
    d.segments.flatMap Segment.words = d.words
  | .last c => c.flatMap_words_segments
  | .or c d => by simp [c.flatMap_words_segments, d.flatMap_words_segments, Segment.words]

theorem AndChain.flatMap_words_segments : (c : AndChain Numeral) →
    c.segments.flatMap Segment.words = c.words
  | .last u => u.flatMap_words_segments
  | .and u c => by simp [u.flatMap_words_segments, c.flatMap_words_segments, Segment.words]

theorem Operand.flatMap_words_segments : (u : Operand Numeral) →
    u.segments.flatMap Segment.words = u.words
  | .atom n => by simp [Segment.words]
  | .not u => by simp [u.flatMap_words_segments, Segment.words]
  | .brackets d => by simp [Segment.words]

end

mutual

theorem OrChain.closed_segments : (d : OrChain Numeral) → ∀ s ∈ d.segments, s.Closed
  | .last c => c.closed_segments
  | .or c d => by
    intro s hs
    rcases List.mem_append.mp hs with hs | hs
    · exact c.closed_segments s hs
    · rcases List.mem_cons.mp hs with rfl | hs
      · exact ⟨by decide +kernel, by decide +kernel⟩
      · exact d.closed_segments s hs

theorem AndChain.closed_segments : (c : AndChain Numeral) → ∀ s ∈ c.segments, s.Closed
  | .last u => u.closed_segments
  | .and u c => by
    intro s hs
    rcases List.mem_append.mp hs with hs | hs
    · exact u.closed_segments s hs
    · rcases List.mem_cons.mp hs with rfl | hs
      · exact ⟨by decide +kernel, by decide +kernel⟩
      · exact c.closed_segments s hs

theorem Operand.closed_segments : (u : Operand Numeral) → ∀ s ∈ u.segments, s.Closed
  | .atom n => by
    intro s hs
    obtain rfl := List.mem_singleton.mp hs
    exact ⟨n.word_ne (by decide +kernel), n.word_ne (by decide +kernel)⟩
  | .not u => by
    intro s hs
    rcases List.mem_cons.mp hs with rfl | hs
    · exact ⟨by decide +kernel, by decide +kernel⟩
    · exact u.closed_segments s hs
  | .brackets d => by
    intro s hs
    obtain rfl := List.mem_singleton.mp hs
    have hd := balanced_flatMap_words d.closed_segments
    rwa [d.flatMap_words_segments] at hd

end

/-- Outside brackets an operand has neither `and` nor `or`. -/
theorem Operand.not_mem_segments {cut : String} (h : atomOfWord? cut = none) (hn : cut ≠ "not") :
    (u : Operand Numeral) → .word cut ∉ u.segments
  | .atom n => by
    intro hs
    exact n.word_ne h (Segment.word.inj (List.mem_singleton.mp hs)).symm
  | .not u => by
    intro hs
    rcases List.mem_cons.mp hs with hs | hs
    · exact hn (Segment.word.inj hs)
    · exact u.not_mem_segments h hn hs
  | .brackets d => by simp

theorem Operand.and_not_mem_segments (u : Operand Numeral) : .word "and" ∉ u.segments :=
  u.not_mem_segments (by decide +kernel) (by decide +kernel)

theorem Operand.or_not_mem_segments (u : Operand Numeral) : .word "or" ∉ u.segments :=
  u.not_mem_segments (by decide +kernel) (by decide +kernel)

/-- Outside brackets a chain of `and` has no `or`. -/
theorem AndChain.or_not_mem_segments : (c : AndChain Numeral) → .word "or" ∉ c.segments
  | .last u => u.or_not_mem_segments
  | .and u c => by simp [u.or_not_mem_segments, c.or_not_mem_segments]

theorem OrChain.segments_words (d : OrChain Numeral) : Logic.segments d.words = .ok d.segments :=
  segments_eq_ok_iff.mpr ⟨d.flatMap_words_segments, d.closed_segments⟩

theorem AndChain.segments_words (c : AndChain Numeral) : Logic.segments c.words = .ok c.segments :=
  (OrChain.last c).segments_words

theorem Operand.segments_words (u : Operand Numeral) : Logic.segments u.words = .ok u.segments :=
  (AndChain.last u).segments_words

theorem OrChain.segments_not_cons_words (d : OrChain Numeral) :
    Logic.segments ("not" :: d.words) = .ok (.word "not" :: d.segments) := by
  refine segments_eq_ok_iff.mpr ⟨?_, List.forall_mem_cons.mpr ⟨⟨?_, ?_⟩, d.closed_segments⟩⟩
  · rw [List.flatMap_cons, d.flatMap_words_segments]
    rfl
  · decide +kernel
  · decide +kernel

/-! ## The words of an expression are read -/

/-- The words of the operands of `or`. -/
@[simp]
def OrChain.parts : OrChain Numeral → List (List String)
  | .last c => [c.words]
  | .or c d => c.words :: d.parts

/-- The words of the operands of `and`. -/
@[simp]
def AndChain.parts : AndChain Numeral → List (List String)
  | .last u => [u.words]
  | .and u c => u.words :: c.parts

theorem OrChain.operands_segments : (d : OrChain Numeral) → operands "or" d.segments = d.parts
  | .last c => by
    rw [segments, operands_of_not_mem c.or_not_mem_segments, c.flatMap_words_segments, parts]
  | .or c d => by
    rw [segments, operands_append_cons c.or_not_mem_segments, c.flatMap_words_segments,
      d.operands_segments, parts]

theorem AndChain.operands_segments : (c : AndChain Numeral) → operands "and" c.segments = c.parts
  | .last u => by
    rw [segments, operands_of_not_mem u.and_not_mem_segments, u.flatMap_words_segments, parts]
  | .and u c => by
    rw [segments, operands_append_cons u.and_not_mem_segments, u.flatMap_words_segments,
      c.operands_segments, parts]

theorem decomposeSegments_of_or_mem {segs : List Segment} (h : .word "or" ∈ segs)
    (ws : List String) :
    decomposeSegments ws segs = .ok (.disjunction (operands "or" segs)) := by
  unfold decomposeSegments
  split
  · simp at h
  · simp [operands?, h]

theorem decomposeSegments_of_and_mem {segs : List Segment} (ho : .word "or" ∉ segs)
    (ha : .word "and" ∈ segs) (ws : List String) :
    decomposeSegments ws segs = .ok (.conjunction (operands "and" segs)) := by
  unfold decomposeSegments
  split
  · simp at ha
  · simp [operands?, ho, ha]

theorem decomposeSegments_of_not_mem {segs : List Segment} (hg : ∀ inner, segs ≠ [.group inner])
    (ho : .word "or" ∉ segs) (ha : .word "and" ∉ segs) (ws : List String) :
    decomposeSegments ws segs = decomposeUnary ws := by
  unfold decomposeSegments
  split
  · next inner => exact absurd rfl (hg inner)
  · simp [operands?, ho, ha]

theorem decompose_of_segments {ws : List String} {segs : List Segment} (hw : ws ≠ [])
    (h : segments ws = .ok segs) : decompose ws = decomposeSegments ws segs := by
  rw [decompose, if_neg hw, h]

theorem OrChain.decompose_or (c : AndChain Numeral) (d : OrChain Numeral) :
    decompose (OrChain.or c d).words = .ok (.disjunction (OrChain.or c d).parts) := by
  rw [decompose_of_segments (by simp) (OrChain.or c d).segments_words,
    decomposeSegments_of_or_mem (by simp), OrChain.operands_segments]

theorem AndChain.decompose_and (u : Operand Numeral) (c : AndChain Numeral) :
    decompose (AndChain.and u c).words = .ok (.conjunction (AndChain.and u c).parts) := by
  rw [decompose_of_segments (by simp) (AndChain.and u c).segments_words,
    decomposeSegments_of_and_mem (AndChain.or_not_mem_segments _) (by simp),
    AndChain.operands_segments]

theorem Operand.decompose_words {u : Operand Numeral} (hw : u.words ≠ [])
    (hu : ∀ inner, u.segments ≠ [.group inner]) : decompose u.words = decomposeUnary u.words := by
  rw [decompose_of_segments hw u.segments_words,
    decomposeSegments_of_not_mem hu u.or_not_mem_segments u.and_not_mem_segments]

theorem Operand.decompose_atom (n : Numeral) :
    decompose (Operand.atom n).words = .ok (.atom n.id) := by
  have hn : n.word ≠ "not" := n.word_ne (by decide +kernel)
  rw [Operand.decompose_words (by simp) (by simp)]
  simp [decomposeUnary, hn, n.reads]

theorem Operand.decompose_not (u : Operand Numeral) :
    decompose (Operand.not u).words = .ok (.negation u.words) := by
  rw [Operand.decompose_words (by simp) (by simp)]
  simp [decomposeUnary]

theorem Operand.decompose_brackets (d : OrChain Numeral) :
    decompose (Operand.brackets d).words = .ok (.brackets d.words) := by
  rw [decompose_of_segments (by simp) (Operand.brackets d).segments_words]
  rfl

theorem mapM_build_cons {w : List String} {ws : List (List String)} {f : Formula}
    {fs : List Formula} (hw : build w = .ok f) (hws : ws.mapM build = .ok fs) :
    (w :: ws).mapM build = .ok (f :: fs) := by
  rw [List.mapM_cons, hw, hws]
  rfl

mutual

/-- The words of an expression are read into its formula. -/
theorem OrChain.build_words : (d : OrChain Numeral) → build d.words = .ok d.formula
  | .last c => c.build_words
  | .or c d => by
    rw [build_eq, OrChain.decompose_or]
    exact congrArg (Except.map _) (mapM_build_cons c.build_words d.mapM_build_parts)

theorem OrChain.mapM_build_parts : (d : OrChain Numeral) → d.parts.mapM build = .ok d.formulas
  | .last c => mapM_build_cons c.build_words rfl
  | .or c d => mapM_build_cons c.build_words d.mapM_build_parts

/-- The words of a chain of `and` are read into its formula. -/
theorem AndChain.build_words : (c : AndChain Numeral) → build c.words = .ok c.formula
  | .last u => u.build_words
  | .and u c => by
    rw [build_eq, AndChain.decompose_and]
    exact congrArg (Except.map _) (mapM_build_cons u.build_words c.mapM_build_parts)

theorem AndChain.mapM_build_parts : (c : AndChain Numeral) → c.parts.mapM build = .ok c.formulas
  | .last u => mapM_build_cons u.build_words rfl
  | .and u c => mapM_build_cons u.build_words c.mapM_build_parts

/-- The words of an operand are read into its formula. -/
theorem Operand.build_words : (u : Operand Numeral) → build u.words = .ok u.formula
  | .atom n => by rw [build_eq, Operand.decompose_atom, Operand.formula]
  | .not u => by
    rw [build_eq, Operand.decompose_not]
    exact congrArg (Except.map _) u.build_words
  | .brackets d => by
    rw [build_eq, Operand.decompose_brackets]
    exact d.build_words

end

/-! ## What is read is an expression -/

/-- The ways in which segments are taken apart. -/
theorem decomposeSegments_cases {ws : List String} {segs : List Segment} {d : Decomposition}
    (h : decomposeSegments ws segs = .ok d) :
    (∃ inner, segs = [.group inner] ∧ d = .brackets inner) ∨
      (.word "or" ∈ segs ∧ d = .disjunction (operands "or" segs)) ∨
      (.word "or" ∉ segs ∧ .word "and" ∈ segs ∧ d = .conjunction (operands "and" segs)) ∨
      (.word "or" ∉ segs ∧ .word "and" ∉ segs ∧ decomposeUnary ws = .ok d) := by
  by_cases ho : .word "or" ∈ segs
  · rw [decomposeSegments_of_or_mem ho, Except.ok.injEq] at h
    exact .inr (.inl ⟨ho, h.symm⟩)
  · by_cases ha : .word "and" ∈ segs
    · rw [decomposeSegments_of_and_mem ho ha, Except.ok.injEq] at h
      exact .inr (.inr (.inl ⟨ho, ha, h.symm⟩))
    · by_cases hg : ∃ inner, segs = [.group inner]
      · obtain ⟨inner, rfl⟩ := hg
        cases h
        exact .inl ⟨inner, rfl, rfl⟩
      · rw [not_exists] at hg
        rw [decomposeSegments_of_not_mem hg ho ha] at h
        exact .inr (.inr (.inr ⟨ho, ha, h⟩))

/-- The ways in which words without `and` and `or` are taken apart. -/
theorem decomposeUnary_cases {ws : List String} {d : Decomposition}
    (h : decomposeUnary ws = .ok d) :
    (∃ rest, ws = "not" :: rest ∧ d = .negation rest) ∨ ∃ n : Numeral, ws = [n.word] ∧
      d = .atom n.id := by
  cases ws with
  | nil => cases h
  | cons w ws =>
    rw [decomposeUnary] at h
    split at h
    · next hw =>
      cases h
      exact .inl ⟨ws, by rw [hw], rfl⟩
    · split at h
      · next hws =>
        split at h
        · next id hid =>
          cases h
          exact .inr ⟨⟨w, id, hid⟩, by rw [hws], rfl⟩
        · cases h
      · cases h

theorem segments_of_decompose {ws : List String} {d : Decomposition} (h : decompose ws = .ok d) :
    ∃ segs, segments ws = .ok segs ∧ decomposeSegments ws segs = .ok d := by
  unfold decompose at h
  split at h
  · cases h
  · split at h
    · cases h
    · next segs hsegs => exact ⟨segs, hsegs, h⟩

/-- An operand of a cut is made of segments of the whole, and the cut is not among them. -/
theorem segments_of_mem_operands {cut : String} {segs : List Segment} {p : List String}
    (hp : p ∈ operands cut segs) :
    ∃ r : List Segment, r.flatMap Segment.words = p ∧ .word cut ∉ r ∧ ∀ s ∈ r, s ∈ segs := by
  obtain ⟨r, after, qs, hOperands, hSegs, hCut, hRest⟩ := operands_split cut segs
  rw [hOperands] at hp
  rcases List.mem_cons.mp hp with rfl | hp
  · refine ⟨r, rfl, hCut, fun s hs => ?_⟩
    rw [hSegs]
    exact List.mem_append_left after hs
  · obtain ⟨before, r', after', hSplit, hPart, hCut'⟩ := hRest p hp
    refine ⟨r', hPart, hCut', fun s hs => ?_⟩
    rw [hSplit]
    exact List.mem_append_right before (.tail _ (List.mem_append_left after' hs))

/-- Those are the segments of the operand. -/
theorem segments_of_operand {segs : List Segment} (hClosed : ∀ s ∈ segs, s.Closed) {cut : String}
    {p : List String} (hp : p ∈ operands cut segs) :
    ∃ r, segments p = .ok r ∧ .word cut ∉ r ∧ ∀ s ∈ r, s ∈ segs := by
  obtain ⟨r, hWords, hCut, hSub⟩ := segments_of_mem_operands hp
  exact ⟨r, segments_eq_ok_iff.mpr ⟨hWords, fun s hs => hClosed s (hSub s hs)⟩, hCut, hSub⟩

/-- What is cut out has the segments that were there before. -/
theorem OrChain.segments_of_cut (d : OrChain Numeral) {cut : String} {segs : List Segment}
    (hclosed : ∀ s ∈ segs, s.Closed) {p : List String} (hp : p ∈ operands cut segs)
    (hd : d.words = p) : .word cut ∉ d.segments ∧ ∀ s ∈ d.segments, s ∈ segs := by
  obtain ⟨r, hr, hcut, hsub⟩ := segments_of_operand hclosed hp
  rw [← hd, d.segments_words, Except.ok.injEq] at hr
  rw [hr]
  exact ⟨hcut, hsub⟩

theorem build_of_mapM_build {ps : List (List String)} {fs : List Formula}
    (h : ps.mapM build = .ok fs) : ∀ p ∈ ps, ∃ f, build p = .ok f := by
  induction ps generalizing fs with
  | nil => simp
  | cons p ps ih =>
    rw [List.mapM_cons] at h
    cases hp : build p with
    | error e => rw [hp] at h; cases h
    | ok f =>
      cases hps : ps.mapM build with
      | error e => rw [hp, hps] at h; cases h
      | ok gs => exact List.forall_mem_cons.mpr ⟨⟨f, hp⟩, ih hps⟩

/-- An expression without `or` outside brackets is a chain of `and`. -/
theorem OrChain.exists_andChain (d : OrChain Numeral) (ho : .word "or" ∉ d.segments) :
    ∃ c : AndChain Numeral, c.words = d.words ∧ c.segments = d.segments := by
  cases d with
  | last c => exact ⟨c, rfl, rfl⟩
  | or c d => simp at ho

/-- A chain of `and` without `and` outside brackets is a single operand. -/
theorem AndChain.exists_operand (c : AndChain Numeral) (ha : .word "and" ∉ c.segments) :
    ∃ u : Operand Numeral, u.words = c.words ∧ u.segments = c.segments := by
  cases c with
  | last u => exact ⟨u, rfl, rfl⟩
  | and u c => simp at ha

theorem OrChain.exists_parts {ps : List (List String)} (hne : ps ≠ [])
    (h : ∀ p ∈ ps, ∃ c : AndChain Numeral, c.words = p) : ∃ d : OrChain Numeral, d.parts = ps := by
  induction ps with
  | nil => exact absurd rfl hne
  | cons p ps ih =>
    obtain ⟨⟨c, rfl⟩, hps⟩ := List.forall_mem_cons.mp h
    cases ps with
    | nil => exact ⟨.last c, rfl⟩
    | cons q qs =>
      obtain ⟨d, hd⟩ := ih (by simp) hps
      exact ⟨.or c d, by rw [parts, hd]⟩

theorem AndChain.exists_parts {ps : List (List String)} (hne : ps ≠ [])
    (h : ∀ p ∈ ps, ∃ u : Operand Numeral, u.words = p) : ∃ c : AndChain Numeral, c.parts = ps := by
  induction ps with
  | nil => exact absurd rfl hne
  | cons p ps ih =>
    obtain ⟨⟨u, rfl⟩, hps⟩ := List.forall_mem_cons.mp h
    cases ps with
    | nil => exact ⟨.last u, rfl⟩
    | cons q qs =>
      obtain ⟨c, hc⟩ := ih (by simp) hps
      exact ⟨.and u c, by rw [parts, hc]⟩

theorem OrChain.intercalate_parts (d : OrChain Numeral) : ["or"].intercalate d.parts = d.words := by
  rw [← d.operands_segments, intercalate_operands, d.flatMap_words_segments]

theorem AndChain.intercalate_parts (c : AndChain Numeral) :
    ["and"].intercalate c.parts = c.words := by
  rw [← c.operands_segments, intercalate_operands, c.flatMap_words_segments]

/-- Segments with an `or` whose operands are expressions are those of an expression. -/
theorem OrChain.exists_words_of_operands {segs : List Segment} (hclosed : ∀ s ∈ segs, s.Closed)
    (h : ∀ p ∈ operands "or" segs, ∃ d : OrChain Numeral, d.words = p) :
    ∃ d : OrChain Numeral, d.words = segs.flatMap Segment.words := by
  have hparts : ∀ p ∈ operands "or" segs, ∃ c : AndChain Numeral, c.words = p := by
    intro p hp
    obtain ⟨d, hd⟩ := h p hp
    obtain ⟨c, hc, -⟩ := d.exists_andChain (d.segments_of_cut hclosed hp hd).1
    exact ⟨c, hc.trans hd⟩
  obtain ⟨d, hd⟩ := OrChain.exists_parts (operands_ne_nil "or" segs) hparts
  exact ⟨d, by rw [← d.intercalate_parts, hd, intercalate_operands]⟩

/-- Segments without `or` whose operands of `and` are expressions are those of a chain of `and`. -/
theorem AndChain.exists_words_of_operands {segs : List Segment} (hclosed : ∀ s ∈ segs, s.Closed)
    (ho : .word "or" ∉ segs)
    (h : ∀ p ∈ operands "and" segs, ∃ d : OrChain Numeral, d.words = p) :
    ∃ c : AndChain Numeral, c.words = segs.flatMap Segment.words := by
  have hparts : ∀ p ∈ operands "and" segs, ∃ u : Operand Numeral, u.words = p := by
    intro p hp
    obtain ⟨d, hd⟩ := h p hp
    obtain ⟨hand, hsub⟩ := d.segments_of_cut hclosed hp hd
    obtain ⟨c, hc, hcs⟩ := d.exists_andChain fun hor => ho (hsub _ hor)
    obtain ⟨u, hu, -⟩ := c.exists_operand (hcs ▸ hand)
    exact ⟨u, hu.trans (hc.trans hd)⟩
  obtain ⟨c, hc⟩ := AndChain.exists_parts (operands_ne_nil "and" segs) hparts
  exact ⟨c, by rw [← c.intercalate_parts, hc, intercalate_operands]⟩

/-- What stands behind a `not`, without `and` and `or` outside brackets, is an operand. -/
theorem OrChain.exists_operand_of_not (d : OrChain Numeral) {segs : List Segment}
    (hsegs : Logic.segments ("not" :: d.words) = .ok segs) (ho : .word "or" ∉ segs)
    (ha : .word "and" ∉ segs) : ∃ u : Operand Numeral, u.words = d.words := by
  rw [d.segments_not_cons_words, Except.ok.injEq] at hsegs
  subst hsegs
  obtain ⟨c, hc, hcs⟩ := d.exists_andChain fun hor => ho (.tail _ hor)
  obtain ⟨u, hu, -⟩ := c.exists_operand fun hand => ha (.tail _ (hcs ▸ hand))
  exact ⟨u, hu.trans hc⟩

/-- Whatever is read into a formula is the words of an expression. -/
theorem exists_words_of_build {ws : List String} {f : Formula} (h : build ws = .ok f) :
    ∃ d : OrChain Numeral, d.words = ws := by
  induction hlen : ws.length using Nat.strongRecOn generalizing ws f with
  | _ n ih =>
  rw [build_eq] at h
  cases hd : decompose ws with
  | error e => rw [hd] at h; cases h
  | ok dec =>
    obtain ⟨segs, hsegs, hdec⟩ := segments_of_decompose hd
    obtain ⟨hw, hclosed⟩ := segments_eq_ok_iff.mp hsegs
    -- Every part is shorter, so what is read of it is an expression.
    have hpart : ∀ p ∈ dec.parts, (∃ g, build p = .ok g) → ∃ d : OrChain Numeral, d.words = p := by
      rintro p hp ⟨g, hg⟩
      exact ih p.length (hlen ▸ length_lt_of_decompose hd hp) hg rfl
    rw [hd] at h
    rcases decomposeSegments_cases hdec with ⟨inner, rfl, rfl⟩ | ⟨ho, rfl⟩ | ⟨ho, ha, rfl⟩ |
        ⟨ho, ha, hunary⟩
    · obtain ⟨d, hd⟩ := hpart inner List.mem_cons_self ⟨f, h⟩
      refine ⟨.last (.last (.brackets d)), ?_⟩
      rw [← hw]
      simp [hd, Segment.words]
    · obtain ⟨fs, hfs, -⟩ := map_eq_ok h
      rw [← hw]
      exact OrChain.exists_words_of_operands hclosed fun p hp =>
        hpart p hp (build_of_mapM_build hfs p hp)
    · obtain ⟨fs, hfs, -⟩ := map_eq_ok h
      obtain ⟨c, hc⟩ := AndChain.exists_words_of_operands hclosed ho fun p hp =>
        hpart p hp (build_of_mapM_build hfs p hp)
      exact ⟨.last c, hc.trans hw⟩
    · rcases decomposeUnary_cases hunary with ⟨rest, rfl, rfl⟩ | ⟨n, rfl, rfl⟩
      · obtain ⟨g, hg, -⟩ := map_eq_ok h
        obtain ⟨d, rfl⟩ := hpart rest List.mem_cons_self ⟨g, hg⟩
        obtain ⟨u, hu⟩ := d.exists_operand_of_not hsegs ho ha
        exact ⟨.last (.last (.not u)), by simp [hu]⟩
      · exact ⟨.last (.last (.atom n)), rfl⟩

/-- A text has a tree exactly if it is not nested too deep and its words are read. -/
theorem Tree.build_eq_ok_iff {logic : String} {t : Tree} :
    Tree.build logic = .ok t ↔ nesting (words logic) ≤ nestingLimit ∧
      ∃ f, Logic.build (words logic) = .ok f ∧ t = { logic := logic, root := f } := by
  unfold Tree.build
  split
  · next h =>
    constructor
    · intro he
      cases he
    · rintro ⟨hle, -⟩
      omega
  · next h =>
    constructor
    · intro he
      obtain ⟨f, hf, rfl⟩ := map_eq_ok he
      exact ⟨by omega, f, hf, rfl⟩
    · rintro ⟨-, f, hf, rfl⟩
      rw [hf]
      rfl

end RuleVerdict.Logic
