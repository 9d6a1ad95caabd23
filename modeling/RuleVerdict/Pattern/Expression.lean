/-!
# Pattern expressions

What a pattern text says, part by part: characters, sets of characters in brackets, conditions on
a place in the text, repetitions, groups and settings. The reader checks how it is written; what
the parts mean depends on the settings in force where they stand.
-/

namespace RuleVerdict.Pattern

/-- What can be switched on and off inside a pattern. -/
inductive Switch where
  | caseless
  | multiLine
  | dotAll
  | swapGreed
  | unicode
  | crlf
  | spacing
  deriving DecidableEq

/-- A switch that is set, on or off. -/
structure Setting where
  switch : Switch
  on : Bool
  deriving DecidableEq

/-- A character of a pattern; `byte` says that it was written as a byte, with two hexadecimal
digits. -/
structure Literal where
  char : Char
  byte : Bool
  deriving DecidableEq

/-- The sets that have a letter of their own. -/
inductive ShortClass where
  | digit
  | space
  | word
  deriving DecidableEq

/-- A set of characters that is referred to by a name. -/
inductive NamedClass where
  | short (kind : ShortClass) (negated : Bool)
  | property (name : String) (value : Option String) (negated : Bool)
  deriving DecidableEq

/-- The sets of ASCII characters that are named between colons. -/
inductive AsciiClass where
  | alnum | alpha | ascii | blank | cntrl | digit | graph | lower | print | punct | space | upper
  | word | xdigit
  deriving DecidableEq

/-- How two sets in brackets are combined. -/
inductive SetOperation where
  | intersection
  | difference
  | symmetricDifference
  deriving DecidableEq

mutual

/-- A part of a set in brackets. -/
inductive ClassItem where
  | literal (l : Literal)
  | range (first last : Literal)
  | ascii (kind : AsciiClass) (negated : Bool)
  | named (c : NamedClass)
  | nested (negated : Bool) (set : ClassSet)

/-- A set in brackets: parts side by side, or two sets combined. -/
inductive ClassSet where
  | items (parts : List ClassItem)
  | combined (operation : SetOperation) (left right : ClassSet)

end

/-- A condition on a place in the text. -/
inductive Anchor where
  | lineStart
  | lineEnd
  | textStart
  | textEnd
  | wordBoundary
  | noWordBoundary
  | wordStart
  | wordEnd
  | wordStartHalf
  | wordEndHalf
  deriving DecidableEq

/-- A pattern as it is written. What a numbered group matches can be asked for afterwards. -/
inductive Expression where
  | empty
  | settings (list : List Setting)
  | literal (l : Literal)
  | dot
  | anchor (a : Anchor)
  | named (c : NamedClass)
  | bracket (negated : Bool) (set : ClassSet)
  | repetition (body : Expression) (least : Nat) (most : Option Nat) (lazy : Bool)
  | group (numbered : Bool) (list : List Setting) (body : Expression)
  | alternation (branches : List Expression)
  | concatenation (parts : List Expression)

/-- One part is itself, and no part is the empty expression. -/
def Expression.ofParts : List Expression → Expression
  | [] => .empty
  | [e] => e
  | es => .concatenation es

/-- One branch is itself. -/
def Expression.ofBranches : List Expression → Expression
  | [] => .empty
  | [e] => e
  | es => .alternation es

/-! ## How deep parts are nested -/

mutual

/-- How many levels a part of a set adds. -/
def ClassItem.depth : ClassItem → Nat
  | .nested _ set => set.depth + 1
  | _ => 0

/-- How many levels a set adds; several parts side by side are a level. -/
def ClassSet.depth : ClassSet → Nat
  | .items parts => ClassItem.depthList parts + (if parts.length ≤ 1 then 0 else 1)
  | .combined _ left right => max left.depth right.depth + 1

/-- The largest number of levels among some parts. -/
def ClassItem.depthList : List ClassItem → Nat
  | [] => 0
  | i :: is => max i.depth (ClassItem.depthList is)

end

mutual

/-- The number of levels of an expression. -/
def Expression.depth : Expression → Nat
  | .bracket _ set => set.depth + 1
  | .repetition body _ _ _ => body.depth + 1
  | .group _ _ body => body.depth + 1
  | .alternation branches => Expression.depthList branches + 1
  | .concatenation parts => Expression.depthList parts + 1
  | _ => 0

/-- The largest number of levels among some expressions. -/
def Expression.depthList : List Expression → Nat
  | [] => 0
  | e :: es => max e.depth (Expression.depthList es)

end

/-- How many levels a pattern may have. -/
def levelLimit : Nat := 250

end RuleVerdict.Pattern
