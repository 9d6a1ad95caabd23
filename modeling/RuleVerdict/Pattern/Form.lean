import RuleVerdict.Pattern.Basic

/-!
# The simplified form of patterns

Before a pattern is laid out it is simplified. Characters in a row become a text, a choice between
characters or sets becomes a set, sequences in sequences and choices in choices are flattened, what
all branches of a choice begin with is put in front of it, and what can match only the empty text is
not repeated. The simplified form matches the same texts; how much room a pattern takes is counted
on it.
-/

namespace RuleVerdict.Pattern

open Unicode

/-- A simplified pattern. -/
inductive Form where
  | empty
  | text (chars : List Char)
  | oneOf (set : CodeSet)
  | look (l : Look)
  | repetition (body : Form) (least : Nat) (most : Option Nat) (lazy : Bool)
  | group (body : Form)
  | sequence (parts : List Form)
  | choice (branches : List Form)
  deriving Inhabited

namespace Form

/-! ## Lengths -/

/-- How many bytes a code point takes in UTF-8. -/
def encodedLength (n : Nat) : Nat :=
  if n ≤ 0x7F then 1 else if n ≤ 0x7FF then 2 else if n ≤ 0xFFFF then 3 else 4

/-- How many bytes some characters take in UTF-8. -/
def textLength : List Char → Nat
  | [] => 0
  | c :: cs => encodedLength c.toNat + textLength cs

/-- The lengths of parts in a row together. -/
def total : List Nat → Nat
  | [] => 0
  | n :: ns => n + total ns

mutual

/-- The number of bytes of the shortest match. A part that matches nothing has none, and neither has
what contains such a part. -/
def shortest? : Form → Option Nat
  | .empty => some 0
  | .text cs => some (textLength cs)
  | .oneOf set => set.ranges.head?.map fun r => encodedLength r.1
  | .look _ => some 0
  | .repetition body least _ _ => (shortest? body).map (· * least)
  | .group body => shortest? body
  | .sequence parts => (shortests? parts).map total
  | .choice branches => (shortests? branches).bind List.min?

/-- The numbers of bytes of the shortest matches of some forms, if each has one. -/
def shortests? : List Form → Option (List Nat)
  | [] => some []
  | f :: fs =>
    match shortest? f, shortests? fs with
    | some n, some ns => some (n :: ns)
    | _, _ => none

end

mutual

/-- The number of bytes of the longest match, if there is one. -/
def longest? : Form → Option Nat
  | .empty => some 0
  | .text cs => some (textLength cs)
  | .oneOf set => set.ranges.getLast?.map fun r => encodedLength r.2
  | .look _ => some 0
  | .repetition body _ most _ =>
    match longest? body, most with
    | some a, some n => some (a * n)
    | _, _ => none
  | .group body => longest? body
  | .sequence parts => (longests? parts).map total
  | .choice branches => (longests? branches).bind List.max?

/-- The numbers of bytes of the longest matches of some forms, if each has one. -/
def longests? : List Form → Option (List Nat)
  | [] => some []
  | f :: fs =>
    match longest? f, longests? fs with
    | some n, some ns => some (n :: ns)
    | _, _ => none

end

/-- Whether every match has at least one byte. -/
def consumes (f : Form) : Bool :=
  match f.shortest? with
  | some n => decide (0 < n)
  | none => false

/-! ## Comparing -/

mutual

/-- Whether two forms are the same. Two groups never are, for they have different numbers. -/
def same : Form → Form → Bool
  | .empty, .empty => true
  | .text a, .text b => a == b
  | .oneOf a, .oneOf b => a == b
  | .look a, .look b => a == b
  | .repetition f least most lazy, .repetition g least' most' lazy' =>
    least == least' && most == most' && lazy == lazy' && same f g
  | .sequence fs, .sequence gs => sameAll fs gs
  | .choice fs, .choice gs => sameAll fs gs
  | _, _ => false

/-- Whether forms in a row are the same one by one. -/
def sameAll : List Form → List Form → Bool
  | [], [] => true
  | f :: fs, g :: gs => same f g && sameAll fs gs
  | _, _ => false

end

mutual

/-- The number of forms in a form. -/
def size : Form → Nat
  | .repetition body _ _ _ => size body + 1
  | .group body => size body + 1
  | .sequence parts => sizes parts + 1
  | .choice branches => sizes branches + 1
  | _ => 1

/-- The number of forms in some forms. -/
def sizes : List Form → Nat
  | [] => 0
  | f :: fs => size f + sizes fs

end

/-! ## Building forms -/

/-- A set of one character is a text. -/
def ofSet (set : CodeSet) : Form :=
  match set.ranges with
  | [(a, b)] => if a = b then .text [Char.ofNat a] else .oneOf set
  | _ => .oneOf set

/-- A repetition. What can match only the empty text is repeated at most once. -/
def repeated (body : Form) (least : Nat) (most : Option Nat) (lazy : Bool) : Form :=
  let (least, most) :=
    if body.longest? = some 0 then (min least 1, some (min (most.getD 1) 1)) else (least, most)
  if least = 0 ∧ most = some 0 then .empty
  else if least = 1 ∧ most = some 1 then body
  else .repetition body least most lazy

/-- The parts that a form brings into a sequence. -/
def parts : Form → List Form
  | .sequence fs => fs
  | .empty => []
  | f => [f]

/-- Joins texts that stand next to each other. -/
def joinTexts : List Form → List Form
  | [] => []
  | .text a :: rest =>
    match joinTexts rest with
    | .text b :: more => .text (a ++ b) :: more
    | more => .text a :: more
  | f :: rest => f :: joinTexts rest

/-- Some forms in a row. -/
def joined (fs : List Form) : Form :=
  match joinTexts (fs.flatMap parts) with
  | [] => .empty
  | [f] => f
  | fs => .sequence fs

/-- The branches that a form brings into a choice. -/
def branches : Form → List Form
  | .choice fs => fs
  | f => [f]

/-- The code points of some texts, if each has one character. -/
def singleCodes? : List Form → Option (List Nat)
  | [] => some []
  | .text [c] :: fs => (singleCodes? fs).map (c.toNat :: ·)
  | _ => none

/-- The sets of some forms, if each is a set. -/
def sets? : List Form → Option (List CodeSet)
  | [] => some []
  | .oneOf set :: fs => (sets? fs).map (set :: ·)
  | _ => none

/-- How many forms at the beginning are the same. -/
def commonLength : List Form → List Form → Nat
  | f :: fs, g :: gs => if same f g then commonLength fs gs + 1 else 0
  | _, _ => 0

/-- The parts of a form that is a sequence. -/
def sequence? : Form → Option (List Form)
  | .sequence fs => some fs
  | _ => none

/-- How many parts all the branches have in common at their beginnings. -/
def liftLength (bs : List Form) : Nat :=
  match bs.mapM sequence? with
  | some (fs :: rest) => rest.foldl (fun n gs => commonLength (fs.take n) gs) fs.length
  | _ => 0

/-- A choice between some forms. Each step takes parts away from the branches, so the size of the
branches bounds the number of steps. -/
def eitherWithin : Nat → List Form → Form
  | 0, fs => .choice (fs.flatMap branches)
  | steps + 1, fs =>
    match fs.flatMap branches with
    | [] => .oneOf .empty
    | [b] => b
    | bs =>
      match singleCodes? bs, sets? bs with
      | some codes, _ => ofSet (.ofRanges (codes.map fun n => (n, n)))
      | _, some sets => ofSet (.unions sets)
      | none, none =>
        match liftLength bs with
        | 0 => .choice bs
        | n + 1 =>
          let rests := bs.map fun b => joined (b.parts.drop (n + 1))
          joined ((bs.headD .empty).parts.take (n + 1) ++ [eitherWithin steps rests])

/-- A choice between some forms. -/
def either (fs : List Form) : Form := eitherWithin (sizes fs + 1) fs

end Form

/-! ## Simplifying -/

mutual

/-- The simplified form of a pattern. -/
def simplify : Pattern → Form
  | .oneOf set => .ofSet set
  | .look l => .look l
  | .sequence parts => .joined (simplifyAll parts)
  | .choice branches => .either (simplifyAll branches)
  | .repetition body least most lazy => .repeated (simplify body) least most lazy
  | .group body => .group (simplify body)

/-- The simplified forms of some patterns. -/
def simplifyAll : List Pattern → List Form
  | [] => []
  | p :: ps => simplify p :: simplifyAll ps

end

end RuleVerdict.Pattern
