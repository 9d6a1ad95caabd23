import RuleVerdict.Pattern.Basic
import RuleVerdict.Pattern.Expression
import RuleVerdict.Unicode.Folding

/-!
# What pattern expressions mean

An expression is turned into a pattern under the settings in force. A setting inside a group holds
up to the end of the group, across its branches. Without the Unicode setting, sets hold ASCII
characters only, and what could match part of a character is no pattern.

* `Switches.set_set`: the later setting of a switch counts.
-/

namespace RuleVerdict.Pattern

open Unicode

/-- The settings that matter for what a pattern says. -/
structure Switches where
  caseless : Bool
  multiLine : Bool
  dotAll : Bool
  swapGreed : Bool
  unicode : Bool
  crlf : Bool
  deriving DecidableEq

namespace Switches

/-- The settings at the beginning of a pattern. -/
def start : Switches := ⟨false, false, false, false, true, false⟩

/-- Sets one switch. -/
def set (s : Switches) (setting : Setting) : Switches :=
  match setting.switch with
  | .caseless => { s with caseless := setting.on }
  | .multiLine => { s with multiLine := setting.on }
  | .dotAll => { s with dotAll := setting.on }
  | .unicode => { s with unicode := setting.on }
  | .crlf => { s with crlf := setting.on }
  | .swapGreed => { s with swapGreed := setting.on }
  | .spacing => s

/-- Sets some switches in order. -/
def setAll (s : Switches) (list : List Setting) : Switches := list.foldl set s

theorem set_set (s : Switches) (switch : Switch) (a b : Bool) :
    (s.set ⟨switch, a⟩).set ⟨switch, b⟩ = s.set ⟨switch, b⟩ := by
  cases switch <;> rfl

end Switches

/-! ## Sets -/

/-- The ASCII characters. -/
def asciiCharacters : CodeSet := .range 0 0x7F

/-- The characters of a named ASCII set. -/
def AsciiClass.characters : AsciiClass → CodeSet
  | .alnum => .ofRanges [(0x30, 0x39), (0x41, 0x5A), (0x61, 0x7A)]
  | .alpha => .ofRanges [(0x41, 0x5A), (0x61, 0x7A)]
  | .ascii => .range 0 0x7F
  | .blank => .ofRanges [(0x09, 0x09), (0x20, 0x20)]
  | .cntrl => .ofRanges [(0x00, 0x1F), (0x7F, 0x7F)]
  | .digit => .range 0x30 0x39
  | .graph => .range 0x21 0x7E
  | .lower => .range 0x61 0x7A
  | .print => .range 0x20 0x7E
  | .punct => .ofRanges [(0x21, 0x2F), (0x3A, 0x40), (0x5B, 0x60), (0x7B, 0x7E)]
  | .space => .ofRanges [(0x09, 0x0D), (0x20, 0x20)]
  | .upper => .range 0x41 0x5A
  | .word => .ofRanges [(0x30, 0x39), (0x41, 0x5A), (0x5F, 0x5F), (0x61, 0x7A)]
  | .xdigit => .ofRanges [(0x30, 0x39), (0x41, 0x46), (0x61, 0x66)]

/-- The characters of a set with a letter of its own. -/
def ShortClass.characters (unicode : Bool) : ShortClass → CodeSet
  | .digit => if unicode then decimalDigits else AsciiClass.digit.characters
  | .space => if unicode then whiteSpace else AsciiClass.space.characters
  | .word => if unicode then wordCharacters else AsciiClass.word.characters

/-- Closes a set under letter case if that does not count. -/
def Switches.fold (s : Switches) (set : CodeSet) : CodeSet :=
  if s.caseless then (if s.unicode then set.closeCase else set.closeAsciiCase) else set

/-- Closes a set under letter case if that does not count, and takes the complement if the set is
negated. Without Unicode only ASCII characters may be left. -/
def Switches.foldAndNegate? (s : Switches) (negated : Bool) (set : CodeSet) : Option CodeSet :=
  let folded := s.fold set
  let result := if negated then folded.compl else folded
  if s.unicode || (result.diff asciiCharacters).isEmpty then some result else none

/-- The set that a name stands for. -/
def NamedClass.meaning? (s : Switches) : NamedClass → Option CodeSet
  | .short kind negated =>
    let set := kind.characters s.unicode
    if negated then (if s.unicode then some set.compl else none) else some set
  | .property name value negated =>
    if s.unicode then
      let found :=
        match value with
        | none => namedSet? name
        | some v => valueSet? name v
      found.bind (s.foldAndNegate? negated)
    else none

/-- Whether a character may stand in a set. -/
def Literal.allowedInSet (s : Switches) (l : Literal) : Bool :=
  s.unicode || decide (l.char.toNat ≤ 0x7F)

/-- Two sets combined. -/
def SetOperation.apply : SetOperation → CodeSet → CodeSet → CodeSet
  | .intersection, a, b => a.inter b
  | .difference, a, b => a.diff b
  | .symmetricDifference, a, b => a.symmDiff b

mutual

/-- The characters of a part of a set. -/
def ClassItem.meaning? (s : Switches) : ClassItem → Option CodeSet
  | .literal l => if l.allowedInSet s then some (.single l.char.toNat) else none
  | .range a b =>
    if a.allowedInSet s && b.allowedInSet s then some (.range a.char.toNat b.char.toNat) else none
  | .ascii kind negated => s.foldAndNegate? negated kind.characters
  | .named c => c.meaning? s
  | .nested negated set => (set.meaning? s).bind (s.foldAndNegate? negated)

/-- The characters of a set; letter case is taken into account before sets are combined. -/
def ClassSet.meaning? (s : Switches) : ClassSet → Option CodeSet
  | .items parts => (ClassItem.meanings? s parts).map CodeSet.unions
  | .combined operation left right =>
    match left.meaning? s, right.meaning? s with
    | some a, some b => some (operation.apply (s.fold a) (s.fold b))
    | _, _ => none

/-- The characters of each part of a set. -/
def ClassItem.meanings? (s : Switches) : List ClassItem → Option (List CodeSet)
  | [] => some []
  | i :: is =>
    match ClassItem.meaning? s i, ClassItem.meanings? s is with
    | some a, some as => some (a :: as)
    | _, _ => none

end

/-! ## Expressions -/

/-- The pattern of a character. -/
def Literal.meaning? (s : Switches) (l : Literal) : Option Pattern :=
  if !s.unicode && l.byte && decide (0x7F < l.char.toNat) then none
  else some (.oneOf (s.fold (.single l.char.toNat)))

/-- The pattern of the dot. -/
def dotMeaning? (s : Switches) : Option Pattern :=
  if !s.unicode then none
  else if s.dotAll then some (.oneOf (.range 0 lastCode))
  else if s.crlf then
    some (.oneOf (.ofRanges [(0, 0x09), (0x0B, 0x0C), (0x0E, lastCode)]))
  else some (.oneOf (.ofRanges [(0, 0x09), (0x0B, lastCode)]))

/-- The condition of an anchor. -/
def Anchor.meaning (s : Switches) : Anchor → Look
  | .lineStart =>
    if s.multiLine then (if s.crlf then .lineStartCrlf else .lineStart) else .textStart
  | .lineEnd => if s.multiLine then (if s.crlf then .lineEndCrlf else .lineEnd) else .textEnd
  | .textStart => .textStart
  | .textEnd => .textEnd
  | .wordBoundary => .boundary !s.unicode
  | .noWordBoundary => .noBoundary !s.unicode
  | .wordStart => .wordStart !s.unicode
  | .wordEnd => .wordEnd !s.unicode
  | .wordStartHalf => .wordStartHalf !s.unicode
  | .wordEndHalf => .wordEndHalf !s.unicode

mutual

/-- The pattern of an expression, and the settings in force behind it. -/
def Expression.meaning? (s : Switches) : Expression → Option (Pattern × Switches)
  | .empty => some (.empty, s)
  | .settings list => some (.empty, s.setAll list)
  | .literal l => (l.meaning? s).map (·, s)
  | .dot => (dotMeaning? s).map (·, s)
  | .anchor a => some (.look (a.meaning s), s)
  | .named c => (c.meaning? s).map fun set => (.oneOf set, s)
  | .bracket negated set =>
    ((set.meaning? s).bind (s.foldAndNegate? negated)).map fun set => (.oneOf set, s)
  | .repetition body least most lazy =>
    (Expression.meaning? s body).map fun (p, s) =>
      (.repetition p least most (lazy != s.swapGreed), s)
  | .group numbered list body =>
    (Expression.meaning? (s.setAll list) body).map fun (p, _) =>
      (if numbered then .group p else p, s)
  | .alternation branches =>
    (Expression.meanings? s branches).map fun (ps, s) => (.choice ps, s)
  | .concatenation parts =>
    (Expression.meanings? s parts).map fun (ps, s) => (.sequence ps, s)

/-- The patterns of some expressions, each under the settings that the one before it leaves. -/
def Expression.meanings? (s : Switches) : List Expression → Option (List Pattern × Switches)
  | [] => some ([], s)
  | e :: es =>
    match Expression.meaning? s e with
    | none => none
    | some (p, s) =>
      match Expression.meanings? s es with
      | none => none
      | some (ps, s) => some (p :: ps, s)

end

end RuleVerdict.Pattern
