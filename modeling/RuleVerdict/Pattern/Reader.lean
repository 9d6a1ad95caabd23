import RuleVerdict.Pattern.Cursor
import RuleVerdict.Pattern.Expression

/-!
# Reading patterns

Reads a pattern text into an expression, or finds that it is no pattern. There is no look-around
and no reference to what a group matched. A bracket or a count that is not closed is an error, and
so is a repetition of nothing and an escape without a meaning.

* `Expression.read?`: the whole text has to be one expression.
-/

namespace RuleVerdict.Pattern

open Text

/-! ## Escapes -/

/-- A single part of a pattern that is not built from others. -/
inductive Primitive where
  | literal (l : Literal)
  | anchor (a : Anchor)
  | named (c : NamedClass)

/-- A character as it stands. -/
def Primitive.char (c : Char) : Primitive := .literal ⟨c, false⟩

/-- Whether a backslash before the character makes it stand for itself: any ASCII character but
letters, digits and angles. -/
def standsForItself (c : Char) : Bool :=
  decide (c.toNat ≤ 0x7F) && !(isDigit c || ('A' ≤ c && c ≤ 'Z') || ('a' ≤ c && c ≤ 'z') ||
    c = '<' || c = '>')

/-- The control character that a letter behind a backslash stands for. -/
def controlEscape? (c : Char) : Option Char :=
  if c = 'a' then some '\x07'
  else if c = 'f' then some '\x0c'
  else if c = 't' then some '\t'
  else if c = 'n' then some '\n'
  else if c = 'r' then some '\r'
  else if c = 'v' then some '\x0b'
  else none

/-- Reads the code point of an escape behind its letter, with braces or with a fixed count of
digits. -/
def readCode (count : Nat) (c : Cursor) : Option (Primitive × Cursor) :=
  match c.rest with
  | [] => none
  | '{' :: rest =>
    let c := c.goToNext rest
    match readHexBraced none (c.rest.length + 1) c with
    | none => none
    | some (n, c) => (charOf? n).map fun ch => (.char ch, c)
  | _ =>
    match readHexDigits 0 count c with
    | none => none
    | some (n, c) => (charOf? n).map fun ch => (.literal ⟨ch, count == 2⟩, c)

/-- Cuts a text at the first place where the mark stands. -/
def cutAt? (mark : List Char) : List Char → Option (List Char × List Char)
  | [] => none
  | c :: cs =>
    if mark.isPrefixOf (c :: cs) then some ([], (c :: cs).drop mark.length)
    else (cutAt? mark cs).map fun (a, b) => (c :: a, b)

/-- The set that the text between the braces of a property asks for. An exclamation mark before the
equals sign asks for the characters with any other value. -/
def propertyOf (text : List Char) (negated : Bool) : NamedClass :=
  match cutAt? ['!', '='] text with
  | some (name, value) => .property (String.ofList name) (some (String.ofList value)) !negated
  | none =>
    match (cutAt? [':'] text).or (cutAt? ['='] text) with
    | some (name, value) => .property (String.ofList name) (some (String.ofList value)) negated
    | none => .property (String.ofList text) none negated

/-- Reads up to a closing brace. -/
def readBraced (done : List Char) : Nat → Cursor → Option (List Char × Cursor)
  | 0, _ => none
  | steps + 1, c =>
    match c.rest with
    | [] => none
    | '}' :: rest => some (done.reverse, c.goTo rest)
    | d :: rest => readBraced (d :: done) steps (c.goToNext rest)

/-- Reads a property behind its letter. -/
def readProperty (negated : Bool) (c : Cursor) : Option (Primitive × Cursor) :=
  match c.rest with
  | [] => none
  | '{' :: rest =>
    let c := c.goToNext rest
    match readBraced [] (c.rest.length + 1) c with
    | none => none
    | some (text, c) => some (.named (propertyOf text negated), c)
  | '\\' :: _ => none
  | d :: rest => some (.named (.property (String.ofList [d]) none negated), c.goToNext rest)

/-- Whether the character may stand in the name of a word boundary. -/
def isBoundaryChar (c : Char) : Bool :=
  ('A' ≤ c && c ≤ 'Z') || ('a' ≤ c && c ≤ 'z') || c = '-'

/-- Reads the characters of the name of a word boundary. -/
def readBoundaryName (done : List Char) : Nat → Cursor → List Char × Cursor
  | 0, c => (done.reverse, c)
  | steps + 1, c =>
    match c.rest with
    | [] => (done.reverse, c)
    | d :: rest =>
      if isBoundaryChar d then readBoundaryName (d :: done) steps (c.goToNext rest)
      else (done.reverse, c)

/-- The word boundaries that have a name. -/
def boundaryNamed? (name : List Char) : Option Anchor :=
  let s := String.ofList name
  if s = "start" then some .wordStart
  else if s = "end" then some .wordEnd
  else if s = "start-half" then some .wordStartHalf
  else if s = "end-half" then some .wordEndHalf
  else none

/-- Reads what follows the escape of a word boundary: a name in braces, if a letter or hyphen comes
first there. Other braces are left alone; they may hold a count. -/
def readBoundary (c : Cursor) : Option (Primitive × Cursor) :=
  match c.rest with
  | '{' :: rest =>
    let inner := c.goToNext rest
    match inner.rest with
    | [] => none
    | d :: _ =>
      if isBoundaryChar d then
        let (name, c) := readBoundaryName [] inner.rest.length inner
        match c.rest with
        | '}' :: rest => (boundaryNamed? name).map fun a => (.anchor a, c.goTo rest)
        | _ => none
      else some (.anchor .wordBoundary, c)
  | _ => some (.anchor .wordBoundary, c)

/-- Reads what follows a backslash. -/
def readEscape (c : Cursor) : Option (Primitive × Cursor) :=
  match c.rest with
  | [] => none
  | d :: rest =>
    if d = 'x' then readCode 2 (c.goToNext rest)
    else if d = 'u' then readCode 4 (c.goToNext rest)
    else if d = 'U' then readCode 8 (c.goToNext rest)
    else if d = 'p' then readProperty false (c.goToNext rest)
    else if d = 'P' then readProperty true (c.goToNext rest)
    else
      let c := c.goTo rest
      if standsForItself d then some (.char d, c)
      else
        match controlEscape? d with
        | some ch => some (.char ch, c)
        | none =>
          if d = 'd' then some (.named (.short .digit false), c)
          else if d = 'D' then some (.named (.short .digit true), c)
          else if d = 's' then some (.named (.short .space false), c)
          else if d = 'S' then some (.named (.short .space true), c)
          else if d = 'w' then some (.named (.short .word false), c)
          else if d = 'W' then some (.named (.short .word true), c)
          else if d = 'A' then some (.anchor .textStart, c)
          else if d = 'z' then some (.anchor .textEnd, c)
          else if d = 'b' then readBoundary c
          else if d = 'B' then some (.anchor .noWordBoundary, c)
          else if d = '<' then some (.anchor .wordStart, c)
          else if d = '>' then some (.anchor .wordEnd, c)
          else none

/-! ## Sets in brackets -/

/-- The ASCII sets by name. -/
def asciiNamed? (name : List Char) : Option AsciiClass :=
  let s := String.ofList name
  if s = "alnum" then some .alnum
  else if s = "alpha" then some .alpha
  else if s = "ascii" then some .ascii
  else if s = "blank" then some .blank
  else if s = "cntrl" then some .cntrl
  else if s = "digit" then some .digit
  else if s = "graph" then some .graph
  else if s = "lower" then some .lower
  else if s = "print" then some .print
  else if s = "punct" then some .punct
  else if s = "space" then some .space
  else if s = "upper" then some .upper
  else if s = "word" then some .word
  else if s = "xdigit" then some .xdigit
  else none

/-- Reads an ASCII set by name behind its opening bracket, if that is what stands there. -/
def readAsciiClass? (cs : List Char) : Option (ClassItem × List Char) :=
  match cs with
  | ':' :: cs =>
    let (negated, cs) :=
      match cs with
      | '^' :: cs => (true, cs)
      | cs => (false, cs)
    match cs.dropWhile (· ≠ ':') with
    | ':' :: ']' :: rest =>
      (asciiNamed? (cs.takeWhile (· ≠ ':'))).map fun kind => (.ascii kind negated, rest)
    | _ => none
  | _ => none

/-- Reads one side of a range, or a part of a set. -/
def readClassPrimitive (c : Cursor) : Option (Primitive × Cursor) :=
  match c.rest with
  | [] => none
  | '\\' :: rest => readEscape (c.goTo rest)
  | d :: rest => some (.char d, c.goTo rest)

/-- Reads a character, a named set or a range. -/
def readClassItem (c : Cursor) : Option (ClassItem × Cursor) :=
  match readClassPrimitive c with
  | none => none
  | some (first, c) =>
    let c := c.skip
    let alone : Option (ClassItem × Cursor) :=
      match first with
      | .literal l => some (.literal l, c)
      | .named n => some (.named n, c)
      | .anchor _ => none
    match c.rest with
    | [] => none
    | '-' :: rest =>
      if c.peek rest = some ']' ∨ c.peek rest = some '-' then alone
      else
        match readClassPrimitive (c.goToNext rest) with
        | none => none
        | some (last, c) =>
          match first, last with
          | .literal a, .literal b =>
            if a.char ≤ b.char then some (.range a b, c) else none
          | _, _ => none
    | _ => alone

/-- Reads the hyphens that may stand first in a set. -/
def readHyphens (done : List ClassItem) : Nat → Cursor → List ClassItem × Cursor
  | 0, c => (done, c)
  | steps + 1, c =>
    match c.rest with
    | '-' :: rest => readHyphens (.literal ⟨'-', false⟩ :: done) steps (c.goToNext rest)
    | _ => (done, c)

/-- Reads the beginning of a set behind its opening bracket: whether it is negated, and the hyphens
or the closing bracket that stand for themselves there. The parts come last first. -/
def openSet (c : Cursor) : Bool × List ClassItem × Cursor :=
  let c := c.skip
  let (negated, c) :=
    match c.rest with
    | '^' :: rest => (true, c.goToNext rest)
    | _ => (false, c)
  let (hyphens, c) := readHyphens [] c.rest.length c
  match hyphens, c.rest with
  | [], ']' :: rest => (negated, [.literal ⟨']', false⟩], c.goToNext rest)
  | _, _ => (negated, hyphens, c)

/-- What stands to the left of the next operand of a set operation. -/
abbrev LeftOperand := Option (SetOperation × ClassSet)

/-- Joins the parts since the last set operation, which come last first, to what is left of them. -/
def joinSet (left : LeftOperand) (parts : List ClassItem) : ClassSet :=
  match left with
  | none => .items parts.reverse
  | some (operation, l) => .combined operation l (.items parts.reverse)

/-- The set operation that stands next, with what follows it. -/
def setOperation? : List Char → Option (SetOperation × List Char)
  | '&' :: '&' :: rest => some (.intersection, rest)
  | '-' :: '-' :: rest => some (.difference, rest)
  | '~' :: '~' :: rest => some (.symmetricDifference, rest)
  | _ => none

/-- Reads a set behind its beginning, up to its closing bracket. Each step takes a character, so the
length of the text bounds the number of steps. -/
def readSet (left : LeftOperand) (parts : List ClassItem) :
    Nat → Cursor → Option (ClassSet × Cursor)
  | 0, _ => none
  | steps + 1, c =>
    let c := c.skip
    match c.rest with
    | [] => none
    | '[' :: rest =>
      match readAsciiClass? rest with
      | some (item, rest) => readSet left (item :: parts) steps (c.goTo rest)
      | none =>
        let (negated, first, c) := openSet (c.goTo rest)
        match readSet none first steps c with
        | none => none
        | some (set, c) => readSet left (.nested negated set :: parts) steps c
    | ']' :: rest => some (joinSet left parts, c.goTo rest)
    | cs =>
      match setOperation? cs with
      | some (operation, rest) =>
        readSet (some (operation, joinSet left parts)) [] steps (c.goTo rest)
      | none =>
        match readClassItem c with
        | none => none
        | some (item, c) => readSet left (item :: parts) steps c

/-- Reads a set behind its opening bracket. -/
def readBracket (c : Cursor) : Option (Expression × Cursor) :=
  let (negated, first, c) := openSet c
  (readSet none first (c.rest.length + 1) c).map fun (set, c) => (.bracket negated set, c)

/-! ## Settings -/

/-- The switch that a letter names. -/
def switch? (c : Char) : Option Switch :=
  if c = 'i' then some .caseless
  else if c = 'm' then some .multiLine
  else if c = 's' then some .dotAll
  else if c = 'U' then some .swapGreed
  else if c = 'u' then some .unicode
  else if c = 'R' then some .crlf
  else if c = 'x' then some .spacing
  else none

/-- Reads settings up to a colon or a closing bracket, which is left in the text. Each switch may be
set once, and after a hyphen something has to be switched off. -/
def readSettings (done : List Setting) (off last : Bool) :
    List Char → Option (List Setting × Bool × List Char)
  | [] => none
  | c :: cs =>
    if c = ':' ∨ c = ')' then if last then none else some (done.reverse, off, c :: cs)
    else if c = '-' then if off then none else readSettings done true true cs
    else
      match switch? c with
      | none => none
      | some s =>
        if done.any fun t => t.switch == s then none
        else readSettings (⟨s, !off⟩ :: done) off false cs

/-- Whether blanks are skipped after the settings. -/
def spacingAfter (before : Bool) (list : List Setting) : Bool :=
  match list.find? fun s => s.switch == .spacing with
  | some s => s.on
  | none => before

/-! ## Expressions -/

/-- What the beginning of a group turns out to be: settings for what follows, or a group. -/
inductive GroupStart where
  | settings (list : List Setting)
  | group (numbered : Bool) (list : List Setting)

/-- Reads the name of a group and goes behind it. A name may be used once. -/
def nameGroup (c : Cursor) (rest : List Char) : Option (GroupStart × Cursor) :=
  match readName [] rest with
  | none => none
  | some (name, rest) =>
    if c.names.contains name then none
    else some (.group true [], { c with rest := rest, names := name :: c.names })

/-- Reads the beginning of a group behind its opening bracket. -/
def readGroupStart (c : Cursor) : Option (GroupStart × Cursor) :=
  let c := c.skip
  match c.rest with
  | '?' :: 'P' :: '<' :: rest => nameGroup c rest
  | '?' :: '<' :: rest =>
    match rest with
    | '=' :: _ => none
    | '!' :: _ => none
    | _ => nameGroup c rest
  | '?' :: rest =>
    match readSettings [] false false rest with
    | some (list, _, ':' :: rest) => some (.group false list, c.goTo rest)
    | some (list, off, ')' :: rest) =>
      if list.isEmpty && !off then none else some (.settings list, c.goTo rest)
    | _ => none
  | _ => some (.group true [], c)

/-- Whether an expression may be repeated. -/
def Expression.repeatable : Expression → Bool
  | .empty => false
  | .settings _ => false
  | _ => true

/-- How often a part is repeated. -/
structure Times where
  least : Nat
  most : Option Nat
  lazy : Bool
  deriving DecidableEq

/-- Repeats the last of some parts, which come last first. -/
def repeatLast (parts : List Expression) (times : Times) : Option (List Expression) :=
  match parts with
  | [] => none
  | e :: es =>
    if e.repeatable then some (.repetition e times.least times.most times.lazy :: es) else none

/-- The end of a repetition: a question mark makes it lazy. -/
def readTimes (least : Nat) (most : Option Nat) (c : Cursor) : Times × Cursor :=
  match c.rest with
  | '?' :: rest => (⟨least, most, true⟩, c.goTo rest)
  | _ => (⟨least, most, false⟩, c)

/-- Reads the counts of a repetition behind the opening brace. -/
def readCounts (c : Cursor) : Option (Times × Cursor) :=
  let c := c.skip
  if c.rest.isEmpty then none
  else
    match readCount c with
    | none => none
    | some (least, c) =>
      match c.rest with
      | ',' :: rest =>
        let c := c.goToNext rest
        match c.rest with
        | [] => none
        | '}' :: rest =>
          least.map fun n => readTimes n none (c.goToNext rest)
        | _ =>
          match readCount c with
          | some (some most, c) =>
            match least, c.rest with
            | some n, '}' :: rest =>
              if n ≤ most then some (readTimes n (some most) (c.goToNext rest)) else none
            | _, _ => none
          | _ => none
      | '}' :: rest =>
        least.map fun n => readTimes n (some n) (c.goToNext rest)
      | _ => none

/-- Reads a part that is not built from others. -/
def readPrimitive (d : Char) (rest : List Char) (c : Cursor) : Option (Expression × Cursor) :=
  if d = '\\' then
    (readEscape (c.goTo rest)).map fun (p, c) =>
      match p with
      | .literal l => (.literal l, c)
      | .anchor a => (.anchor a, c)
      | .named n => (.named n, c)
  else if d = '.' then some (.dot, c.goTo rest)
  else if d = '^' then some (.anchor .lineStart, c.goTo rest)
  else if d = '$' then some (.anchor .lineEnd, c.goTo rest)
  else some (.literal ⟨d, false⟩, c.goTo rest)

/-- Reads branches up to a closing bracket, which is left in the text, or the end. The parts of the
branch and the branches before it come last first. Each step takes a character, so the length of the
text bounds the number of steps. -/
def readBranches (branches parts : List Expression) :
    Nat → Cursor → Option (Expression × Cursor)
  | 0, _ => none
  | steps + 1, c =>
    let c := c.skip
    let whole := Expression.ofBranches (.ofParts parts.reverse :: branches).reverse
    match c.rest with
    | [] => some (whole, c)
    | d :: rest =>
      if d = ')' then some (whole, c)
      else if d = '|' then
        readBranches (.ofParts parts.reverse :: branches) [] steps (c.goTo rest)
      else if d = '(' then
        match readGroupStart (c.goTo rest) with
        | none => none
        | some (.settings list, c) =>
          readBranches branches (.settings list :: parts) steps
            { c with spacing := spacingAfter c.spacing list }
        | some (.group numbered list, inner) =>
          match readBranches [] [] steps
              { inner with spacing := spacingAfter c.spacing list } with
          | none => none
          | some (body, after) =>
            match after.rest with
            | ')' :: rest =>
              readBranches branches (.group numbered list body :: parts) steps
                { after with rest := rest, spacing := c.spacing }
            | _ => none
      else if d = '[' then
        match readBracket (c.goTo rest) with
        | none => none
        | some (e, c) => readBranches branches (e :: parts) steps c
      else if d = '?' ∨ d = '*' ∨ d = '+' then
        let least := if d = '+' then 1 else 0
        let most := if d = '?' then some 1 else none
        let (times, c) := readTimes least most (c.goTo rest)
        match repeatLast parts times with
        | none => none
        | some parts => readBranches branches parts steps c
      else if d = '{' then
        match readCounts (c.goTo rest) with
        | none => none
        | some (times, c) =>
          match repeatLast parts times with
          | none => none
          | some parts => readBranches branches parts steps c
      else
        match readPrimitive d rest c with
        | none => none
        | some (e, c) => readBranches branches (e :: parts) steps c

/-- The expression that a whole pattern text writes, if it is not nested too deeply. -/
def Expression.read? (cs : List Char) : Option Expression :=
  match readBranches [] [] (cs.length + 1) ⟨cs, false, []⟩ with
  | some (e, c) => if c.rest.isEmpty && e.depth ≤ levelLimit then some e else none
  | none => none

end RuleVerdict.Pattern
