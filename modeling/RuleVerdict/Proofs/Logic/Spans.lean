import RuleVerdict.Logic.Span
import RuleVerdict.Proofs.Logic.Brackets

/-!
# Spans divide a word list

The spans of a word list are found by counting brackets and remembering one position, and operands
are taken out of the list by position. Nothing is lost between them and nothing is taken twice: the
spans tile the list, and what stands at them are the segments, so all that is known of segments and
their operands holds for the positions as well.

* `spansFrom_eq`: the pass over the words finds the positions of the segments.
* `split?_spansOf`: what is cut out of the list are the operands.
* `Divides`: what spans are for a word list.
* `spans_divide`: the spans of a word list divide it, and there are some unless its brackets do not
  match.
-/

namespace RuleVerdict.Logic

/-! ## What stands where -/

/-- The spans follow each other from one position up to another, without gap or overlap. -/
def Tiles (i j : Nat) : List Span → Prop
  | [] => i = j
  | s :: us => s.start = i ∧ i < s.stop ∧ Tiles s.stop j us

/-- What stands at a span: one word that is no bracket, or a bracket, words with balanced brackets,
and the bracket that closes the first one. -/
structure Span.StandsIn (s : Span) (ws : List String) : Prop where
  word : s.isGroup = false → s.stop = s.start + 1 ∧ ∃ w, ws[s.start]? = some w ∧ w ≠ "(" ∧ w ≠ ")"
  group : s.isGroup = true → ws[s.start]? = some "(" ∧ ws[s.stop - 1]? = some ")" ∧
    s.start + 1 ≤ s.stop - 1 ∧ s.stop - 1 ≤ ws.length ∧
    Balanced (ws.extract (s.start + 1) (s.stop - 1))

/-- The segment that stands at a span. -/
def Span.segment (ws : List String) (s : Span) : Segment :=
  if s.isGroup then .group (ws.extract (s.start + 1) (s.stop - 1))
  else .word (ws[s.start]?.getD "")

/-! ## The spans of segments -/

/-- Whether the segment is a group. -/
def Segment.isGroup : Segment → Bool
  | .word _ => false
  | .group _ => true

/-- The spans of segments that stand one after another from position `i` on. -/
def spansOf (i : Nat) : List Segment → List Span
  | [] => []
  | s :: segs => ⟨i, i + s.words.length, s.isGroup⟩ :: spansOf (i + s.words.length) segs

/-- The spans that are found are those of the segments that are found. -/
theorem spansFrom_eq {i depth opening : Nat} {inner : List String} (ws : List String)
    (h : ∀ n, depth = n + 1 → i = opening + 1 + inner.length) :
    spansFrom i depth opening ws =
      (segmentsFrom depth inner ws).map (spansOf (if depth = 0 then i else opening)) := by
  induction ws generalizing i depth opening inner with
  | nil =>
    cases depth with
    | zero => rfl
    | succ depth => rfl
  | cons w ws ih =>
    -- Behind a word that closes nothing, or closes the outermost bracket, no bracket is open.
    have hFront : ∀ s : Segment, ∀ o p, (spansFrom (p + s.words.length) 0 o ws).map
          (⟨p, p + s.words.length, s.isGroup⟩ :: ·) =
        ((segmentsFrom 0 [] ws).map (s :: ·)).map (spansOf p) := by
      intro s o p
      rw [@ih (p + s.words.length) 0 o [] nofun]
      cases segmentsFrom 0 [] ws <;> rfl
    by_cases hOpen : w = "("
    · subst hOpen
      cases depth with
      | zero => exact ih fun n hn => rfl
      | succ depth => exact ih fun n hn => by rw [h depth rfl]; rfl
    by_cases hClose : w = ")"
    · subst hClose
      cases depth with
      | zero => rfl
      | succ depth =>
        cases depth with
        | zero =>
          have hi := h 0 rfl
          have hFound := hFront (.group inner.reverse) opening opening
          have hStop : opening + (Segment.group inner.reverse).words.length = i + 1 := by
            simp only [Segment.words, List.cons_append, List.length_cons, List.length_append,
              List.length_reverse, List.length_nil]
            omega
          rw [hStop] at hFound
          exact hFound
        | succ depth => exact ih fun n hn => by rw [h _ rfl]; rfl
    · cases depth with
      | zero =>
        simp only [spansFrom, segmentsFrom, if_neg hOpen, if_neg hClose, if_true]
        exact hFront (.word w) opening i
      | succ depth =>
        simp only [spansFrom, segmentsFrom, if_neg hOpen, if_neg hClose, Nat.add_one_ne_zero,
          if_false]
        exact ih fun n hn => by rw [h _ rfl]; rfl

theorem spans_eq (ws : List String) : spans ws = (segments ws).map (spansOf 0) :=
  spansFrom_eq ws nofun

variable {segs : List Segment} (pre post : List String)

theorem extract_middle (mid : List String) :
    (pre ++ mid ++ post).extract pre.length (pre.length + mid.length) = mid := by
  simp

theorem Segment.words_length_pos (s : Segment) : 0 < s.words.length := by
  cases s with
  | word w => exact Nat.one_pos
  | group inner => simp [Segment.words]

/-- Segments that stand one after another leave no gap. -/
theorem tiles_spansOf (i : Nat) (segs : List Segment) :
    Tiles i (i + (segs.flatMap Segment.words).length) (spansOf i segs) := by
  induction segs generalizing i with
  | nil => rfl
  | cons s segs ih =>
    have hPos := s.words_length_pos
    have hRest := ih (i + s.words.length)
    refine ⟨rfl, Nat.lt_add_of_pos_right hPos, ?_⟩
    rwa [List.flatMap_cons, List.length_append, ← Nat.add_assoc]

theorem getElem?_middle (w : String) : (pre ++ w :: post)[pre.length]? = some w := by
  simp

theorem words_group_append (inner : List String) :
    (Segment.group inner).words ++ post = "(" :: (inner ++ ")" :: post) := by
  simp [Segment.words]

theorem length_words_group (inner : List String) :
    (Segment.group inner).words.length = inner.length + 2 := by
  simp [Segment.words]

theorem extract_group (inner : List String) :
    (pre ++ "(" :: (inner ++ ")" :: post)).extract (pre.length + 1)
      (pre.length + (inner.length + 2) - 1) = inner := by
  have hInner := extract_middle (pre ++ ["("]) (")" :: post) inner
  have hStart : (pre ++ ["("]).length = pre.length + 1 := by simp
  have hStop : pre.length + (inner.length + 2) - 1 = pre.length + 1 + inner.length := by omega
  rw [hStart, List.append_assoc, List.append_assoc] at hInner
  rw [hStop]
  exact hInner

/-- A group stands between a bracket and the one that closes it. -/
theorem standsIn_group {inner : List String} (h : Balanced inner) :
    Span.StandsIn ⟨pre.length, pre.length + (inner.length + 2), true⟩
      (pre ++ "(" :: (inner ++ ")" :: post)) := by
  have hClosing := getElem?_middle (pre ++ "(" :: inner) post ")"
  have hLast : (pre ++ "(" :: inner).length = pre.length + (inner.length + 2) - 1 := by
    simp only [List.length_append, List.length_cons]
    omega
  rw [hLast, List.append_assoc] at hClosing
  refine ⟨nofun, fun _ => ⟨getElem?_middle pre _ "(", hClosing, ?_, ?_, ?_⟩⟩
  · simp only
    omega
  · simp only [List.length_append, List.length_cons]
    omega
  · rwa [extract_group]

theorem standsIn_of_closed {s : Segment} (h : s.Closed) :
    Span.StandsIn ⟨pre.length, pre.length + s.words.length, s.isGroup⟩
      (pre ++ (s.words ++ post)) := by
  cases s with
  | word w => exact ⟨fun _ => ⟨rfl, w, getElem?_middle pre post w, h⟩, nofun⟩
  | group inner =>
    rw [words_group_append, length_words_group]
    exact standsIn_group pre post h

theorem segment_of_words (s : Segment) :
    Span.segment (pre ++ (s.words ++ post)) ⟨pre.length, pre.length + s.words.length, s.isGroup⟩ =
      s := by
  cases s with
  | word w => simp [Span.segment, Segment.isGroup, Segment.words]
  | group inner =>
    rw [words_group_append, length_words_group]
    exact congrArg Segment.group (extract_group pre post inner)

/-- What stands at the spans of segments are these segments. -/
theorem map_segment_spansOf {ws : List String} (hws : ws = pre ++ segs.flatMap Segment.words) :
    (spansOf pre.length segs).map (Span.segment ws) = segs := by
  induction segs generalizing pre with
  | nil => rfl
  | cons s segs ih =>
    have hRest := ih (pre ++ s.words) (by simp [hws])
    rw [List.length_append] at hRest
    rw [List.flatMap_cons] at hws
    rw [spansOf, List.map_cons, hRest, hws, segment_of_words]

theorem standsIn_of_mem_spansOf (h : ∀ s ∈ segs, s.Closed) :
    ∀ u ∈ spansOf pre.length segs, u.StandsIn (pre ++ segs.flatMap Segment.words) := by
  induction segs generalizing pre with
  | nil => nofun
  | cons s segs ih =>
    obtain ⟨hs, hSegs⟩ := List.forall_mem_cons.mp h
    have hRest := ih (pre ++ s.words) hSegs
    have hFirst := standsIn_of_closed pre (segs.flatMap Segment.words) hs
    rw [List.length_append, List.append_assoc] at hRest
    rw [List.flatMap_cons]
    exact List.forall_mem_cons.mpr ⟨hFirst, hRest⟩

/-! ## Cuts -/

variable {word : String}

/-- The word at which a list is cut is a segment of its own. -/
theorem cuts_spansOf_cons (word : String) (s : Segment) (us : List Span) :
    cuts word (pre ++ s.words ++ post)
        (⟨pre.length, pre.length + s.words.length, s.isGroup⟩ :: us) =
      if s = .word word then pre.length :: cuts word (pre ++ s.words ++ post) us
      else cuts word (pre ++ s.words ++ post) us := by
  cases s with
  | word w =>
    by_cases hw : w = word
    · simp [cuts, Segment.isGroup, Segment.words, hw]
    · simp [cuts, Segment.isGroup, Segment.words, hw]
  | group inner => simp [cuts, Segment.isGroup]

theorem modifyHead_nil_append (ps : List (List String)) : ps.modifyHead ([] ++ ·) = ps := by
  cases ps <;> rfl

/-- Between the cuts stand the operands, the first one behind the words that came before. -/
theorem map_ranges_cuts (cur : List String) {ws : List String}
    (hws : ws = pre ++ cur ++ segs.flatMap Segment.words) :
    (ranges pre.length ws.length (cuts word ws (spansOf (pre.length + cur.length) segs))).map
        (fun r => ws.extract r.1 r.2) =
      (operands word segs).modifyHead (cur ++ ·) := by
  induction segs generalizing pre cur with
  | nil => simp [spansOf, cuts, ranges, operands, hws]
  | cons s segs ih =>
    have hCuts := cuts_spansOf_cons (pre ++ cur) (segs.flatMap Segment.words) word s
      (spansOf (pre.length + cur.length + s.words.length) segs)
    rw [List.append_assoc, ← List.flatMap_cons, ← hws, List.length_append] at hCuts
    rw [spansOf, hCuts, operands]
    split
    · next hs =>
      have hRest := ih (pre ++ cur ++ [word]) [] (by simp [hws, hs, Segment.words])
      have hCur := extract_middle pre ((s :: segs).flatMap Segment.words) cur
      rw [← hws] at hCur
      have hOne : s.words.length = 1 := by rw [hs]; rfl
      have hStart : (pre ++ cur ++ [word]).length = pre.length + cur.length + 1 := by
        simp only [List.length_append, List.length_singleton]
      rw [hStart, List.length_nil, Nat.add_zero] at hRest
      rw [hOne, ranges, List.map_cons, hCur, hRest, modifyHead_nil_append, List.modifyHead_cons,
        List.append_nil]
    · have hRest := ih pre (cur ++ s.words) (by simp [hws])
      rw [List.length_append, ← Nat.add_assoc] at hRest
      rw [hRest, List.modifyHead_modifyHead]
      congr 1
      funext p
      exact List.append_assoc ..

theorem cuts_eq_nil_iff {ws : List String} (hws : ws = pre ++ segs.flatMap Segment.words) :
    cuts word ws (spansOf pre.length segs) = [] ↔ .word word ∉ segs := by
  induction segs generalizing pre with
  | nil => simp [spansOf, cuts]
  | cons s segs ih =>
    have hCuts := cuts_spansOf_cons pre (segs.flatMap Segment.words) word s
      (spansOf (pre.length + s.words.length) segs)
    have hRest := ih (pre ++ s.words) (by simp [hws])
    rw [List.append_assoc, ← List.flatMap_cons, ← hws] at hCuts
    rw [List.length_append] at hRest
    rw [spansOf, hCuts, List.mem_cons]
    split
    · next hs => simp [hs]
    · next hs => simp [hRest, Ne.symm hs]

/-- Cutting a list by position gives the operands. -/
theorem split?_spansOf (word : String) (segs : List Segment) :
    split? word (segs.flatMap Segment.words) (spansOf 0 segs) = operands? word segs := by
  have hCuts : cuts word (segs.flatMap Segment.words) (spansOf 0 segs) = [] ↔
      .word word ∉ segs := cuts_eq_nil_iff [] rfl
  have hRanges : (ranges 0 (segs.flatMap Segment.words).length
        (cuts word (segs.flatMap Segment.words) (spansOf 0 segs))).map
        (fun r => (segs.flatMap Segment.words).extract r.1 r.2) = operands word segs :=
    (map_ranges_cuts [] [] rfl).trans (modifyHead_nil_append _)
  unfold split? operands?
  by_cases hMem : .word word ∈ segs
  · rw [if_neg (fun h => hCuts.mp h hMem), if_pos (by simpa using hMem)]
    exact congrArg some hRanges
  · rw [if_pos (hCuts.mpr hMem), if_neg (by simpa using hMem)]

theorem Tiles.le {us : List Span} {i j : Nat} (h : Tiles i j us) : i ≤ j := by
  induction us generalizing i with
  | nil => exact Nat.le_of_eq h
  | cons s us ih =>
    obtain ⟨-, hStop, hRest⟩ := h
    exact Nat.le_of_lt (Nat.lt_of_lt_of_le hStop (ih hRest))

/-- The ranges between cuts are stretches of the list. -/
theorem Tiles.le_of_mem_ranges {ws : List String} {us : List Span} {start i j : Nat}
    (h : Tiles i j us) (hStart : start ≤ i) :
    ∀ r ∈ ranges start j (cuts word ws us), r.1 ≤ r.2 ∧ r.2 ≤ j := by
  induction us generalizing start i with
  | nil =>
    intro r hr
    cases List.mem_singleton.mp hr
    exact ⟨h ▸ hStart, Nat.le_refl j⟩
  | cons s us ih =>
    obtain ⟨hFirst, hStop, hRest⟩ := h
    have hEnd := hRest.le
    by_cases hs : !s.isGroup && ws[s.start]? == some word
    · have hCuts : cuts word ws (s :: us) = s.start :: cuts word ws us := by simp [cuts, hs]
      rw [hCuts, hFirst]
      exact List.forall_mem_cons.mpr ⟨⟨hStart, by omega⟩, ih hRest hStop⟩
    · have hCuts : cuts word ws (s :: us) = cuts word ws us := by simp [cuts, hs]
      rw [hCuts]
      exact ih hRest (by omega)

/-! ## Operands -/

/-- The word stands in a list outside all brackets. -/
def StandsFree (word : String) (ws : List String) : Prop :=
  ∃ before after, ws = before ++ word :: after ∧ Balanced before

/-- What the cuts at a word leave of a list: operands that it takes the word to put together again,
with balanced brackets and without the word outside of them. -/
structure Splits (word : String) (ws : List String) (parts : List (List String)) : Prop where
  two_le : 2 ≤ parts.length
  joined : [word].intercalate parts = ws
  balanced : ∀ p ∈ parts, Balanced p
  not_standsFree : ∀ p ∈ parts, ¬ StandsFree word p

theorem exists_of_mem_operands {p : List String} (h : p ∈ operands word segs) :
    ∃ r : List Segment, r.flatMap Segment.words = p ∧ .word word ∉ r ∧ ∀ s ∈ r, s ∈ segs := by
  obtain ⟨r, after, qs, hOperands, hSegs, hCut, hRest⟩ := operands_split word segs
  rw [hOperands] at h
  rcases List.mem_cons.mp h with rfl | hp
  · exact ⟨r, rfl, hCut, fun s hs => hSegs ▸ List.mem_append_left after hs⟩
  · obtain ⟨before, r', after', hSplit, hPart, hCut'⟩ := hRest p hp
    refine ⟨r', hPart, hCut', fun s hs => ?_⟩
    rw [hSplit]
    simp [hs]

theorem length_operands (word : String) (segs : List Segment) :
    (operands word segs).length = segs.count (.word word) + 1 := by
  induction segs with
  | nil => rfl
  | cons s segs ih =>
    rw [operands]
    split
    · next hs => rw [hs, List.length_cons, ih, List.count_cons_self]
    · next hs => rw [List.length_modifyHead, ih, List.count_cons_of_ne hs]

theorem not_standsFree_of_not_mem {r : List Segment} (h : ∀ s ∈ r, s.Closed)
    (hWord : word ≠ "(" ∧ word ≠ ")") (hr : .word word ∉ r) :
    ¬ StandsFree word (r.flatMap Segment.words) := by
  rintro ⟨before, after, hSplit, hBefore⟩
  have hAll := balanced_flatMap_words h
  rw [hSplit, Balanced, openAfter?_append, hBefore, Option.bind_some,
    openAfter?_word hWord.1 hWord.2] at hAll
  obtain ⟨bs, hbs⟩ := exists_segments_iff.mpr hBefore
  obtain ⟨as, has⟩ := exists_segments_iff.mpr hAll
  obtain ⟨hBeforeWords, hbsClosed⟩ := segments_eq_ok_iff.mp hbs
  obtain ⟨hAfterWords, hasClosed⟩ := segments_eq_ok_iff.mp has
  -- The segments of a list are unique, and so the word is one of them.
  have hOther : segments (r.flatMap Segment.words) = .ok (bs ++ .word word :: as) := by
    refine segments_eq_ok_iff.mpr ⟨?_, ?_⟩
    · rw [hSplit, List.flatMap_append, List.flatMap_cons, hBeforeWords, hAfterWords]
      rfl
    · exact List.forall_mem_append.mpr ⟨hbsClosed, List.forall_mem_cons.mpr ⟨hWord, hasClosed⟩⟩
  have hSame := (segments_flatMap_words h).symm.trans hOther
  cases hSame
  exact hr (by simp)

theorem splits_of_mem (h : ∀ s ∈ segs, s.Closed) (hMem : .word word ∈ segs) :
    Splits word (segs.flatMap Segment.words) (operands word segs) where
  two_le := by
    have hCount : 0 < segs.count (.word word) := List.count_pos_iff.mpr hMem
    rw [length_operands]
    omega
  joined := intercalate_operands word segs
  balanced := by
    intro p hp
    obtain ⟨r, rfl, -, hr⟩ := exists_of_mem_operands hp
    exact balanced_flatMap_words fun s hs => h s (hr s hs)
  not_standsFree := by
    intro p hp
    obtain ⟨r, rfl, hCut, hr⟩ := exists_of_mem_operands hp
    exact not_standsFree_of_not_mem (fun s hs => h s (hr s hs)) (h _ hMem) hCut

/-! ## The whole list -/

/-- Some bracket is closed before it is opened, or not as many are closed as are opened. -/
def Unbalanced (ws : List String) : Prop :=
  (∃ p, p <+: ws ∧ p.count "(" < p.count ")") ∨ ws.count "(" ≠ ws.count ")"

theorem unbalanced_iff {ws : List String} : Unbalanced ws ↔ ¬ Balanced ws := by
  rw [balanced_iff_count, Unbalanced, Classical.not_and_iff_not_or_not]
  simp only [Classical.not_forall, Nat.not_le, exists_prop, ne_eq]

/-- How spans divide a word list. They follow each other from the first position to the end, each is
a single word or a bracketed group, and at any word that stands for itself the list is cut into
operands, which are those that a formula is read from. -/
structure Divides (us : List Span) (ws : List String) : Prop where
  tiles : Tiles 0 ws.length us
  standsIn : ∀ s ∈ us, s.StandsIn ws
  split_none : ∀ word, split? word ws us = none ↔
    ∀ s ∈ us, s.isGroup = false → ws[s.start]? ≠ some word
  split_some : ∀ word parts, split? word ws us = some parts → Splits word ws parts
  ranges_le : ∀ word, ∀ r ∈ ranges 0 ws.length (cuts word ws us), r.1 ≤ r.2 ∧ r.2 ≤ ws.length
  operands_eq : ∀ word, operands? word (us.map (Span.segment ws)) = split? word ws us

theorem exists_spans_error_iff {ws : List String} : (∃ e, spans ws = .error e) ↔ Unbalanced ws := by
  rw [unbalanced_iff, ← exists_segments_iff, spans_eq]
  cases segments ws with
  | error e => simp [Except.map]
  | ok segs => simp [Except.map]

theorem segments_eq_map_spans (ws : List String) :
    segments ws = (spans ws).map fun us => us.map (Span.segment ws) := by
  rw [spans_eq]
  cases hSegs : segments ws with
  | error e => rfl
  | ok segs =>
    have hWords := flatMap_words_segments hSegs
    exact congrArg Except.ok (map_segment_spansOf [] hWords.symm).symm

theorem divides_spansOf (h : ∀ s ∈ segs, s.Closed) :
    Divides (spansOf 0 segs) (segs.flatMap Segment.words) where
  tiles := by
    have hTiles := tiles_spansOf 0 segs
    rwa [Nat.zero_add] at hTiles
  standsIn := standsIn_of_mem_spansOf [] h
  split_none word := by
    rw [split?_eq_none_iff, cuts, List.map_eq_nil_iff, List.filter_eq_nil_iff]
    simp
  split_some word parts hParts := by
    rw [split?_spansOf, operands?] at hParts
    split at hParts
    · next hMem =>
      cases hParts
      exact splits_of_mem h (by simpa using hMem)
    · cases hParts
  ranges_le word := by
    have hTiles := tiles_spansOf 0 segs
    rw [Nat.zero_add] at hTiles
    exact hTiles.le_of_mem_ranges (Nat.le_refl 0)
  operands_eq word := by
    have hSegs : (spansOf 0 segs).map (Span.segment (segs.flatMap Segment.words)) = segs :=
      map_segment_spansOf [] rfl
    rw [hSegs, split?_spansOf]

/-- **The spans of a word list divide it.** They are refused exactly if the brackets do not match.
If they do, the spans cover the list in order and are cut into operands at every word that stands
outside brackets. What stands at them are the segments from which a formula is read. -/
theorem spans_divide (ws : List String) :
    ((∃ e, spans ws = .error e) ↔ Unbalanced ws) ∧
      (segments ws = (spans ws).map fun us => us.map (Span.segment ws)) ∧
      ∀ us, spans ws = .ok us → Divides us ws := by
  refine ⟨exists_spans_error_iff, segments_eq_map_spans ws, fun us hus => ?_⟩
  rw [spans_eq] at hus
  obtain ⟨segs, hSegs, rfl⟩ := map_eq_ok hus
  obtain ⟨rfl, hClosed⟩ := segments_eq_ok_iff.mp hSegs
  exact divides_spansOf hClosed

/-- An `or` inside the brackets is no cut, the `and` behind them is one. -/
theorem spans_divide_negated_group :
    let ws := ["not", "(", "1", "or", "2", ")", "and", "3"]
    let us := [⟨0, 1, false⟩, ⟨1, 6, true⟩, ⟨6, 7, false⟩, ⟨7, 8, false⟩]
    spans ws = .ok us ∧ Tiles 0 8 us ∧ split? "or" ws us = none ∧
      Splits "and" ws [["not", "(", "1", "or", "2", ")"], ["3"]] := by
  intro ws us
  have hSpans : spans ws = .ok us := rfl
  have hDivide : Divides us ws := (spans_divide ws).2.2 us hSpans
  have hOr : ∀ s ∈ us, s.isGroup = false → ws[s.start]? ≠ some "or" := by decide +kernel
  exact ⟨hSpans, hDivide.tiles, (hDivide.split_none "or").mpr hOr,
    hDivide.split_some "and" _ (by decide +kernel)⟩

end RuleVerdict.Logic
