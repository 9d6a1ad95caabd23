import RuleVerdict.Logic.Formula

/-!
# Segments of a word list

Outside brackets a word list is a row of single words and of bracketed groups. Cutting it at every
`or`, or at every `and`, that stands outside brackets gives the operands of the chain it writes.

* `flatMap_words_segments`: the segments cover the words in order, without gap or overlap.
* `intercalate_operands`: the operands with the word between them are the words again.
* `length_lt_of_mem_operands?`: each operand is shorter than the whole.
-/

namespace RuleVerdict.Logic

/-- What can go wrong when words are read into a formula. -/
inductive TreeError where
  | tooDeep
  | emptyOperand
  | unopened
  | unclosed
  | notAnId (word : String)
  | unsplittable (words : List String)
  deriving DecidableEq

/-- A single word outside brackets, or the words inside one pair of brackets. -/
inductive Segment where
  | word (w : String)
  | group (inner : List String)
  deriving DecidableEq

/-- The words that the segment covers. -/
def Segment.words : Segment → List String
  | .word w => [w]
  | .group inner => "(" :: inner ++ [")"]

/-- The segments of a word list. While brackets are open, `depth` counts them and `inner` holds,
last word first, what came after the outermost one. -/
def segmentsFrom (depth : Nat) (inner : List String) :
    List String → Except TreeError (List Segment)
  | [] => if depth = 0 then .ok [] else .error .unclosed
  | w :: ws =>
    if depth = 0 then
      if w = "(" then segmentsFrom 1 [] ws
      else if w = ")" then .error .unopened
      else (segmentsFrom 0 [] ws).map (.word w :: ·)
    else if w = "(" then segmentsFrom (depth + 1) (w :: inner) ws
    else if w = ")" then
      if depth = 1 then (segmentsFrom 0 [] ws).map (.group inner.reverse :: ·)
      else segmentsFrom (depth - 1) (w :: inner) ws
    else segmentsFrom depth (w :: inner) ws

/-- The segments of a word list, if its brackets match. -/
def segments (ws : List String) : Except TreeError (List Segment) := segmentsFrom 0 [] ws

/-- The word lists between the segments that are the given single word. -/
def operands (cut : String) : List Segment → List (List String)
  | [] => [[]]
  | s :: rest =>
    if s = .word cut then [] :: operands cut rest
    else (operands cut rest).modifyHead (s.words ++ ·)

/-- The operands around a word, if the word stands outside brackets at all. -/
def operands? (cut : String) (segs : List Segment) : Option (List (List String)) :=
  if segs.contains (.word cut) then some (operands cut segs) else none

/-! ## The segments cover the words -/

theorem map_eq_ok {ε α β : Type} {x : Except ε α} {f : α → β} {b : β}
    (h : x.map f = .ok b) : ∃ a, x = .ok a ∧ f a = b := by
  cases x with
  | error e => cases h
  | ok a => exact ⟨a, rfl, by cases h; rfl⟩

theorem words_segmentsFrom {ws : List String} {depth : Nat} {inner : List String}
    {segs : List Segment} (h : segmentsFrom depth inner ws = .ok segs) :
    segs.flatMap Segment.words = if depth = 0 then ws else "(" :: inner.reverse ++ ws := by
  induction ws generalizing depth inner segs with
  | nil =>
    unfold segmentsFrom at h
    split at h
    · cases h; simp_all
    · cases h
  | cons w ws ih =>
    unfold segmentsFrom at h
    split at h
    · next h0 =>
      split at h
      · next hw => simpa [h0, hw] using ih h
      · split at h
        · cases h
        · obtain ⟨rest, hr, rfl⟩ := map_eq_ok h
          have := ih hr
          simp_all [Segment.words]
    · next h0 =>
      split at h
      · next hw => simpa [h0, hw] using ih h
      · split at h
        · next hw =>
          split at h
          · obtain ⟨rest, hr, rfl⟩ := map_eq_ok h
            have := ih hr
            simp_all [Segment.words]
          · next h1 =>
            have hd : depth - 1 ≠ 0 := by omega
            simpa [h0, hw, hd] using ih h
        · simpa [h0] using ih h

theorem flatMap_words_segments {ws : List String} {segs : List Segment}
    (h : segments ws = .ok segs) : segs.flatMap Segment.words = ws := by
  simpa using words_segmentsFrom h

/-! ## The operands restore the words -/

theorem operands_ne_nil (cut : String) (segs : List Segment) : operands cut segs ≠ [] := by
  induction segs with
  | nil => simp [operands]
  | cons s rest ih =>
    unfold operands
    split
    · simp
    · cases h : operands cut rest with
      | nil => exact absurd h ih
      | cons p ps => simp

/-- The operands with the word between each two are the words of the segments. -/
theorem intercalate_operands (cut : String) (segs : List Segment) :
    [cut].intercalate (operands cut segs) = segs.flatMap Segment.words := by
  induction segs with
  | nil => rfl
  | cons s rest ih =>
    have hne := operands_ne_nil cut rest
    unfold operands
    cases h : operands cut rest with
    | nil => exact absurd h hne
    | cons p ps =>
      rw [h] at ih
      split
      · next hs =>
        have : [cut].intercalate ([] :: p :: ps) = cut :: [cut].intercalate (p :: ps) := by
          simp [List.intercalate, List.intersperse]
        rw [this, ih, hs]
        simp [Segment.words]
      · cases ps with
        | nil => simp_all [List.intercalate, List.intersperse]
        | cons q qs => simp_all [List.intercalate, List.intersperse]

/-- The number of words in some lists. -/
def totalLength : List (List String) → Nat
  | [] => 0
  | p :: ps => p.length + totalLength ps

/-- The operands and the cuts together are as long as the whole. -/
theorem totalLength_operands (cut : String) (segs : List Segment) :
    totalLength (operands cut segs) + segs.count (.word cut) =
      (segs.flatMap Segment.words).length := by
  induction segs with
  | nil => rfl
  | cons s rest ih =>
    have hne := operands_ne_nil cut rest
    unfold operands
    cases h : operands cut rest with
    | nil => exact absurd h hne
    | cons p ps =>
      rw [h] at ih
      simp only [totalLength] at ih
      split
      · next hs =>
        subst hs
        simp only [totalLength, List.length_nil, List.count_cons_self,
          List.flatMap_cons, List.length_append, Segment.words, List.length_singleton]
        omega
      · next hs =>
        simp only [List.modifyHead_cons, totalLength, List.length_append,
          List.count_cons_of_ne hs, List.flatMap_cons]
        omega

theorem length_le_totalLength_of_mem {ps : List (List String)} {p : List String} (h : p ∈ ps) :
    p.length ≤ totalLength ps := by
  induction ps with
  | nil => cases h
  | cons q qs ih =>
    simp only [totalLength]
    rcases List.mem_cons.1 h with rfl | h
    · omega
    · have := ih h; omega

theorem length_lt_of_mem_operands? {cut : String} {segs : List Segment}
    {parts : List (List String)} (h : operands? cut segs = some parts) {p : List String}
    (hp : p ∈ parts) : p.length < (segs.flatMap Segment.words).length := by
  unfold operands? at h
  split at h
  · next hc =>
    cases h
    have hsum := totalLength_operands cut segs
    have hle := length_le_totalLength_of_mem hp
    have : 0 < segs.count (.word cut) := List.count_pos_iff.2 (by simpa using hc)
    omega
  · cases h

end RuleVerdict.Logic
