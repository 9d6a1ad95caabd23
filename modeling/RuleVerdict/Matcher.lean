import RuleVerdict.Interval
import RuleVerdict.Operator
import RuleVerdict.Pattern.Admission
import RuleVerdict.Text.Pieces
import RuleVerdict.Value

/-!
# Matchers

A matcher is an operator together with its literal, prepared so that fields can be judged: a list
is cut at its commas, an interval and a pattern are read. A literal that is missing or cannot be
read makes a matcher that no field fits. Judging never fails: what cannot be compared does not
fit. What the bounds of an interval and a pattern are is up to a reader of literals.

* `fits_never`: nothing fits where the literal is of no use.
-/

namespace RuleVerdict

namespace Comparison

/-- Compares two texts by their code points. -/
def onTexts (a b : String) : Comparison → Bool
  | .eq => a == b
  | .ne => a != b
  | .gt => decide (b < a)
  | .ge => !decide (a < b)
  | .lt => decide (a < b)
  | .le => !decide (b < a)

/-- Compares two numbers. What is no number differs from everything and has no order. -/
def onNumbers (a b : Binary64) : Comparison → Bool
  | .eq => a.eq b
  | .ne => !a.eq b
  | .gt => b.lt a
  | .ge => b.le a
  | .lt => a.lt b
  | .le => a.le b

/-- Compares two fields: as texts if both are, else as numbers if both can be. -/
def onFields (a b : Field) (c : Comparison) : Bool :=
  match a, b with
  | .text s, .text t => c.onTexts s t
  | a, b =>
    match a.asNumber, b.asNumber with
    | some x, some y => c.onNumbers x y
    | _, _ => false

end Comparison

/-- How the text of a literal is read: the numbers of an interval, and a pattern, which is known by
the texts that it matches. -/
structure LiteralReader where
  number? : Interval.NumberReader
  pattern? : String → Option (List Char → Bool)

/-- The reader in use. -/
def LiteralReader.standard : LiteralReader :=
  ⟨Interval.readNumber, fun s => (Pattern.read? s).map Pattern.isMatch⟩

/-- An operator with its prepared literal. -/
inductive Matcher where
  | absent
  | present
  | never
  | compare (c : Comparison) (literal : Field)
  | isIn (items : List String)
  | notIn (items : List String)
  | intersect (items : List String)
  | between (i : Interval)
  | pattern (accepts : List Char → Bool)

namespace Matcher

/-- The items of a list: the pieces between commas, without the blanks around them. -/
def listItems (s : String) : List String :=
  (Text.pieces ',' s.toList).map fun p => String.ofList (Text.trim p)

/-- The items of a list literal; without a literal there are none. -/
def literalItems : Option Value → List String
  | none => []
  | some v => listItems v.literalText

/-- Prepares a literal for an operator. -/
def prepare (R : LiteralReader) (op : Operator) (literal : Option Value) : Matcher :=
  match op with
  | .absent => .absent
  | .present => .present
  | .isIn => .isIn (literalItems literal)
  | .notIn => .notIn (literalItems literal)
  | .intersect => .intersect (literalItems literal)
  | .compare c =>
    match literal with
    | none => .never
    | some v => .compare c v.field
  | .between =>
    match (literal.bind Value.text?).bind (Interval.read? R.number?) with
    | none => .never
    | some i => .between i
  | .pattern =>
    match literal.bind fun v => R.pattern? v.literalText with
    | none => .never
    | some accepts => .pattern accepts

/-- How far a number in a list may be from the number of a field. -/
def tolerance : Binary64 := .ofDecimal ⟨false, 1, -5⟩

/-- Whether a field is an item of a list: a text as it is, a number by its value. -/
def isItem (items : List String) (f : Field) : Bool :=
  match f with
  | .text s => items.contains s
  | f =>
    match f.asNumber with
    | none => false
    | some x =>
      items.any fun item =>
        match Binary64.read? item.toList with
        | none => false
        | some n => (n.distance x).lt tolerance

/-- Whether the text of a field, taken as a list, has an item in common with a list. -/
def shareItem (items : List String) (f : Field) : Bool :=
  match f.render with
  | none => false
  | some s => (listItems s).any items.contains

/-- Judges a field that is a number, a text or a truth value. -/
def fitsScalar (m : Matcher) (f : Field) : Bool :=
  match m with
  | .absent => false
  | .present => true
  | .never => false
  | .compare c literal => c.onFields f literal
  | .isIn items => isItem items f
  | .notIn items => !isItem items f
  | .intersect items => shareItem items f
  | .between i =>
    match f.asNumber with
    | none => false
    | some x => i.contains x
  | .pattern accepts =>
    match f.render with
    | none => false
    | some s => accepts s.toList

/-- Whether a field fits. -/
def fits (m : Matcher) : Field → Bool
  | .absent =>
    match m with
    | .absent => true
    | _ => false
  | .unsupported =>
    match m with
    | .present => true
    | _ => false
  | f => m.fitsScalar f

theorem fits_never (f : Field) : never.fits f = false := by cases f <;> rfl

end Matcher

end RuleVerdict
