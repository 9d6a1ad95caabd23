import RuleVerdict.Pattern.Encoding

/-!
# What a match can begin with

For some patterns it is known which few texts a match can begin with, and that each of these is a
whole match. Such texts are looked for without a machine. They are found by following the pattern
from its beginning, as long as there are few enough of them and they are short enough. A part that
matches nothing leaves no text, whatever is behind it.

The texts are then thinned out as for a quick search: a text that another one before it begins is
left out, and a common beginning that is rare stands for all texts. What is left is of use only if
each text still is a whole match.

* `unite_none`: a choice with a branch that can begin with anything can begin with anything.
-/

namespace RuleVerdict.Pattern

open Unicode

/-- A text with which a match can begin; `whole` says that it is the match. -/
structure Opening where
  bytes : List Nat
  whole : Bool
  deriving DecidableEq

/-- The texts with which a match can begin, the preferred one first; none if it can be any text. -/
abbrev Openings := Option (List Opening)

namespace Openings

/-- The largest number of characters of a set that are told apart. -/
def setLimit : Nat := 10

/-- How often a part is repeated at most while it is followed. -/
def repeatLimit : Nat := 10

/-- The largest number of bytes of a text. -/
def lengthLimit : Nat := 100

/-- The largest number of texts. -/
def countLimit : Nat := 250

/-- A text without the bytes behind some. -/
def shorten (n : Nat) (o : Opening) : Opening :=
  if o.bytes.length ≤ n then o else ⟨o.bytes.take n, false⟩

/-- Leaves a text out that is the same as the one before it. -/
def dedup : List Opening → List Opening
  | [] => []
  | [a] => [a]
  | a :: b :: rest =>
    if a.bytes = b.bytes then dedup (⟨a.bytes, a.whole && b.whole⟩ :: rest)
    else a :: dedup (b :: rest)
  termination_by os => os.length

/-- The same texts, none of which is a whole match. -/
def partly (o : Openings) : Openings := o.map fun os => os.map fun a => ⟨a.bytes, false⟩

/-- Whether no text is a whole match, so that what follows does not matter. -/
def isPartly : Openings → Bool
  | none => true
  | some os => os.all fun a => !a.whole

/-- The texts of a choice between two parts. Too many texts are cut to four bytes first. -/
def unite : Openings → Openings → Openings
  | some a, some b =>
    if a.length + b.length ≤ countLimit then some (dedup (a ++ b))
    else
      let a := dedup (a.map (shorten 4))
      let b := dedup (b.map (shorten 4))
      if a.length + b.length ≤ countLimit then some (dedup (a ++ b)) else none
  | _, _ => none

/-- The texts of two parts in a row. -/
def cross (a b : Openings) : Openings :=
  match a, b with
  | none, _ => none
  | some xs, none => crossAny xs
  | some xs, some ys =>
    if countLimit < xs.length * ys.length then crossAny xs
    else
      let all := xs.flatMap fun x =>
        if x.whole then ys.map fun y => ⟨x.bytes ++ y.bytes, y.whole⟩ else [x]
      some ((dedup all).map (shorten lengthLimit))
where
  /-- The texts of a part with anything behind it. -/
  crossAny (xs : List Opening) : Openings :=
    if xs.any fun x => x.bytes.isEmpty then none
    else (partly (some xs)).map fun os => os.map (shorten lengthLimit)

/-- The texts of a part that comes a number of times in a row. -/
def crossTimes (body : Openings) : Nat → Openings → Openings
  | 0, o => o
  | n + 1, o => if isPartly o then o else crossTimes body n (cross o body)

/-- The empty text, as a whole match. -/
def nothing : Openings := some [⟨[], true⟩]

/-- The number of code points in some ranges. -/
def rangeCount : List (Nat × Nat) → Nat
  | [] => 0
  | r :: rs => r.2 + 1 - r.1 + rangeCount rs

/-- The texts of a set. -/
def ofSet (set : CodeSet) : Openings :=
  if setLimit < rangeCount set.ranges then none
  else
    some (set.ranges.flatMap fun r =>
      (List.range (r.2 + 1 - r.1)).map fun i => ⟨encoded (r.1 + i), true⟩)

mutual

/-- The texts with which a match of a simplified pattern can begin. -/
def ofForm : Form → Openings
  | .empty => nothing
  | .text cs => some [shorten lengthLimit ⟨encodedText cs, true⟩]
  | .oneOf set => ofSet set
  | .look _ => nothing
  | .repetition body 0 most lazy =>
    let once := ofForm body
    let once := if most = some 1 then once else partly once
    if lazy then unite nothing once else unite once nothing
  | .repetition body least most _ =>
    let inRow := crossTimes (ofForm body) (min least repeatLimit) nothing
    if most = some least ∧ least ≤ repeatLimit then inRow else partly inRow
  | .group body => ofForm body
  | .sequence parts => ofRow nothing parts
  | .choice branches => ofBranches (some []) branches

/-- The texts of some forms in a row behind others. -/
def ofRow (before : Openings) : List Form → Openings
  | [] => before
  | f :: fs => if isPartly before then before else ofRow (cross before (ofForm f)) fs

/-- The texts of a choice between some forms and others. -/
def ofBranches (before : Openings) : List Form → Openings
  | [] => before
  | f :: fs => ofBranches (unite before (ofForm f)) fs

end

/-! ## Thinning out -/

/-- How common each byte is in texts; a higher number is more common. -/
def commonness : List Nat := [
  55, 52, 51, 50, 49, 48, 47, 46, 45, 103, 242, 66, 67, 229, 44, 43, 42, 41, 40, 39, 38, 37, 36,
  35, 34, 33, 56, 32, 31, 30, 29, 28, 255, 148, 164, 149, 136, 160, 155, 173, 221, 222, 134, 122,
  232, 202, 215, 224, 208, 220, 204, 187, 183, 179, 177, 168, 178, 200, 226, 195, 154, 184, 174,
  126, 120, 191, 157, 194, 170, 189, 162, 161, 150, 193, 142, 137, 171, 176, 185, 167, 186, 112,
  175, 192, 188, 156, 140, 143, 123, 133, 128, 147, 138, 146, 114, 223, 151, 249, 216, 238, 236,
  253, 227, 218, 230, 247, 135, 180, 241, 233, 246, 244, 231, 139, 245, 243, 251, 235, 201, 196,
  240, 214, 152, 182, 205, 181, 127, 27, 212, 211, 210, 213, 228, 197, 169, 159, 131, 172, 105,
  80, 98, 96, 97, 81, 207, 145, 116, 115, 144, 130, 153, 121, 107, 132, 109, 110, 124, 111, 82,
  108, 118, 141, 113, 129, 119, 125, 165, 117, 92, 106, 83, 72, 99, 93, 65, 79, 166, 237, 163,
  199, 190, 225, 209, 203, 198, 217, 219, 206, 234, 248, 158, 239, 255, 255, 255, 255, 255, 255,
  255, 255, 255, 255, 255, 255, 255, 255, 255, 255, 255, 255, 255, 255, 255, 255, 255, 255, 255,
  255, 255, 255, 255, 255, 255, 255, 255, 255, 255, 255, 255, 255, 255, 255, 255, 255, 255, 255,
  255, 255, 255, 255, 255, 255, 255, 255, 255, 255, 255, 255, 255, 255, 255, 255, 255, 255, 255,
  255]

/-- How common a byte is. -/
def common (b : Nat) : Nat := commonness.getD b 0

/-- Leaves out each text that begins with one before it. -/
def minimizeBehind (kept : List Opening) : List Opening → List Opening
  | [] => kept.reverse
  | o :: os =>
    if kept.any fun k => k.bytes.isPrefixOf o.bytes then minimizeBehind kept os
    else minimizeBehind (o :: kept) os

/-- Leaves out each text that begins with one before it. -/
def minimize (os : List Opening) : List Opening := minimizeBehind [] os

/-- The bytes with which both rows begin. -/
def sharedBytes : List Nat → List Nat → List Nat
  | a :: as, b :: bs => if a = b then a :: sharedBytes as bs else []
  | _, _ => []

/-- The bytes with which all texts begin. -/
def commonBytes : List Opening → List Nat
  | [] => []
  | o :: os => os.foldl (fun p q => sharedBytes p q.bytes) o.bytes

/-- Cuts the texts shorter and shorter while there are too many of them. -/
def cutDown (os : List Opening) : List (Nat × Nat) → List Opening
  | [] => os
  | (keep, limit) :: rest =>
    if os.length ≤ limit then os else cutDown (minimize (os.map (shorten keep))) rest

/-- Whether a text is found almost everywhere. -/
def isEverywhere (o : Opening) : Bool :=
  match o.bytes with
  | [] => true
  | [b] => decide (250 ≤ common b)
  | _ => false

/-- Whether each text is a whole match. -/
def allWhole (os : List Opening) : Bool := os.all Opening.whole

/-- The texts that are left when they are cut down, or the texts themselves if these are better. -/
def reduce (os : List Opening) : List Opening :=
  let fewer := cutDown os [(5, 10), (4, 10), (3, 64), (2, 64), (1, 10)]
  if fewer.any isEverywhere || fewer.any (fun o => decide (o.bytes.length ≤ 2)) ||
      decide (64 < fewer.length) then os
  else fewer

/-- Whether what is left of the texts for a quick search are whole matches, and at least one. -/
def decisive : Openings → Bool
  | none => false
  | some os =>
    if os.any fun o => o.bytes.isEmpty then false
    else
      let least := minimize os
      let p := commonBytes least
      if 1 < os.length && decide (1 ≤ p.length) && decide (p.length ≤ 3) &&
          decide (common (p.headD 0) < 200) then
        allWhole (least.map (shorten 1))
      else
        let fast := allWhole least && decide (least.length ≤ 16)
        let kept :=
          if decide (4 < p.length) || (decide (1 < p.length) && !fast) then
            dedup (least.map (shorten p.length))
          else least
        !kept.isEmpty && allWhole kept && allWhole (reduce kept)

theorem unite_none (o : Openings) : unite none o = none ∧ unite o none = none := by
  cases o <;> simp [unite]

end Openings

/-! ## Patterns that need no machine -/

mutual

/-- Whether the form is made of texts and sets alone: it has no groups and no conditions. -/
def Form.isPlain : Form → Bool
  | .look _ => false
  | .group _ => false
  | .repetition body _ _ _ => isPlain body
  | .sequence parts => allPlain parts
  | .choice branches => allPlain branches
  | _ => true

/-- Whether all forms have no groups and no conditions. -/
def Form.allPlain : List Form → Bool
  | [] => true
  | f :: fs => isPlain f && allPlain fs

end

/-- The number of texts in a choice from which on they are looked for as such. -/
def manyTexts : Nat := 3000

/-- Whether the form is a choice between many texts. -/
def Form.isWordList : Form → Bool
  | .choice branches =>
    decide (manyTexts ≤ branches.length) && branches.all fun f =>
      match f with
      | .text _ => true
      | _ => false
  | _ => false

/-- Whether matches of the form are found without a machine. -/
def Form.needsNoMachine (f : Form) : Bool :=
  f.isWordList || (f.isPlain && (Openings.ofForm f).decisive)

end RuleVerdict.Pattern
