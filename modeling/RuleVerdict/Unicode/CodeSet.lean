/-!
# Sets of code points

A set of code points is kept as inclusive ranges in ascending order that do not overlap. Union,
complement and intersection work on the ranges; the large sets of the character properties are
written as the lengths of their stretches. The code points D800 to DFFF stand for no characters: a
range may go across them, but where a set is cut the ends of the ranges are characters.

* `mem_single`, `mem_range`: what the smallest sets hold.
* `ofStretches`: reads `41 1a 6 1a`, skip 0x41 code points, take 0x1a, skip 6, take 0x1a.
-/

namespace RuleVerdict.Unicode

/-- The last code point. -/
def lastCode : Nat := 0x10FFFF

/-- Ascending inclusive ranges of code points that do not overlap. -/
structure CodeSet where
  ranges : List (Nat × Nat)
  deriving DecidableEq, Inhabited

namespace CodeSet

/-- Whether the set holds the code point. -/
def mem (s : CodeSet) (n : Nat) : Bool :=
  s.ranges.any fun r => decide (r.1 ≤ n) && decide (n ≤ r.2)

/-- Whether the set holds the character. -/
def contains (s : CodeSet) (c : Char) : Bool := s.mem c.toNat

/-- No code point. -/
def empty : CodeSet := ⟨[]⟩

/-- Whether the set holds nothing. -/
def isEmpty (s : CodeSet) : Bool := s.ranges.isEmpty

/-- One code point. -/
def single (n : Nat) : CodeSet := ⟨[(n, n)]⟩

/-- All code points from `first` to `last`. -/
def range (first last : Nat) : CodeSet := ⟨[(first, last)]⟩

theorem mem_single {n m : Nat} : (single n).mem m = true ↔ m = n := by
  simp [mem, single]; omega

theorem mem_range {a b m : Nat} : (range a b).mem m = true ↔ a ≤ m ∧ m ≤ b := by
  simp [mem, range]

/-- Joins a range to those behind it, in ascending order of their starts, as far as they touch or
overlap, and so on. -/
def mergeFrom (r : Nat × Nat) : List (Nat × Nat) → List (Nat × Nat)
  | [] => [r]
  | q :: qs =>
    if q.1 ≤ r.2 + 1 then mergeFrom (r.1, max r.2 q.2) qs else r :: mergeFrom q qs

/-- Joins ranges, in ascending order of their starts, that touch or overlap. -/
def merge : List (Nat × Nat) → List (Nat × Nat)
  | [] => []
  | r :: rs => mergeFrom r rs

/-- The set of all code points in some of the ranges. -/
def ofRanges (rs : List (Nat × Nat)) : CodeSet :=
  ⟨merge (rs.mergeSort fun a b => decide (a.1 ≤ b.1))⟩

/-- The code points of either set. -/
def union (s t : CodeSet) : CodeSet := ofRanges (s.ranges ++ t.ranges)

/-- The character behind one that is not the last. The block D800 to DFFF stands for no characters
and is passed over. -/
def codeAfter (n : Nat) : Nat := if n = 0xD7FF then 0xE000 else n + 1

/-- The character before one that is not the first. -/
def codeBefore (n : Nat) : Nat := if n = 0xE000 then 0xD7FF else n - 1

/-- The gaps behind the code point `last`, between the ascending ranges that follow it. A gap that
holds no character, because only the block that stands for none lies between two ranges, is taken
for its two neighbours. -/
def gapsBehind (last : Nat) : List (Nat × Nat) → List (Nat × Nat)
  | [] => if last < lastCode then [(codeAfter last, lastCode)] else []
  | r :: rs =>
    let a := codeAfter last
    let b := codeBefore r.1
    (min a b, max a b) :: gapsBehind r.2 rs

/-- The code points that are not in the set. A set that holds U+D7FF and U+E000 as ends of ranges is
an exception: its complement holds them too. -/
def compl (s : CodeSet) : CodeSet :=
  match s.ranges with
  | [] => ⟨[(0, lastCode)]⟩
  | r :: rs => ⟨(if 0 < r.1 then [(0, codeBefore r.1)] else []) ++ gapsBehind r.2 rs⟩

/-- The part of a range that lies in another one. -/
def overlap? (r t : Nat × Nat) : Option (Nat × Nat) :=
  let a := max r.1 t.1
  let b := min r.2 t.2
  if a ≤ b then some (a, b) else none

/-- The code points of both sets. -/
def inter (s t : CodeSet) : CodeSet := ⟨s.ranges.flatMap fun r => t.ranges.filterMap (overlap? r)⟩

/-- What is left of the range from `a` to `b` without some ascending ranges. -/
def cut (a b : Nat) : List (Nat × Nat) → List (Nat × Nat)
  | [] => [(a, b)]
  | t :: ts =>
    if t.2 < a then cut a b ts
    else if b < t.1 then [(a, b)]
    else
      (if a < t.1 then [(a, codeBefore t.1)] else []) ++
        (if t.2 < b then cut (codeAfter t.2) b ts else [])

/-- The code points of the first set that are not in the second. -/
def diff (s t : CodeSet) : CodeSet := ⟨s.ranges.flatMap fun r => cut r.1 r.2 t.ranges⟩

/-- The code points of exactly one of the sets. -/
def symmDiff (s t : CodeSet) : CodeSet := (s.union t).diff (s.inter t)

/-- The code points of some set in the list. -/
def unions (sets : List CodeSet) : CodeSet := ofRanges (sets.flatMap ranges)

/-! ## Sets written as stretches -/

/-- The value of a hexadecimal digit in lower case, and zero for anything else. -/
def hexValue (c : Char) : Nat :=
  if '0' ≤ c ∧ c ≤ '9' then c.toNat - '0'.toNat
  else if 'a' ≤ c ∧ c ≤ 'f' then c.toNat - 'a'.toNat + 10
  else 0

/-- The hexadecimal numbers of a text, which single spaces keep apart. -/
def hexNumbers (s : String) : List Nat :=
  let (done, last) := s.toList.foldl
    (fun (acc : List Nat × Nat) c =>
      if c = ' ' then (acc.2 :: acc.1, 0) else (acc.1, acc.2 * 16 + hexValue c))
    ([], 0)
  (last :: done).reverse

/-- Ranges from lengths: how many code points to skip, how many to take, and so on. -/
def stretchRanges (start : Nat) : List Nat → List (Nat × Nat)
  | skip :: take :: rest =>
    (start + skip, start + skip + take - 1) :: stretchRanges (start + skip + take) rest
  | [skip] => [(start + skip, lastCode)]
  | [] => []

/-- The set whose stretches, skipped and taken in turn, have the lengths written in the lines. -/
def ofStretches (lines : List String) : CodeSet := ⟨stretchRanges 0 (lines.flatMap hexNumbers)⟩

end CodeSet

end RuleVerdict.Unicode
