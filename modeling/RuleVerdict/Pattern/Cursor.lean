import RuleVerdict.Text.Blank
import RuleVerdict.Text.Digits
import RuleVerdict.Unicode.Letters

/-!
# Moving through a pattern text

A cursor is what is left of a pattern text, with the group names that were used and whether blanks
and comments are skipped. While they are, they are skipped between the parts of a pattern and
inside escapes too.
-/

namespace RuleVerdict.Pattern

open Text Unicode

/-- The rest of a pattern text, and what is known from the part before it. -/
structure Cursor where
  rest : List Char
  spacing : Bool
  names : List (List Char)

namespace Cursor

/-- The text behind leading blanks and comments; a comment ends with its line. -/
def skipIgnored (inComment : Bool) : List Char → List Char
  | [] => []
  | c :: cs =>
    if inComment then skipIgnored (c ≠ '\n') cs
    else if isBlank c then skipIgnored false cs
    else if c = '#' then skipIgnored true cs
    else c :: cs

/-- Skips blanks and comments where these do not count. -/
def skip (c : Cursor) : Cursor :=
  if c.spacing then { c with rest := skipIgnored false c.rest } else c

/-- Goes to the given rest of the text. -/
def goTo (c : Cursor) (rest : List Char) : Cursor := { c with rest := rest }

/-- Goes to the given rest of the text, and on to what counts. -/
def goToNext (c : Cursor) (rest : List Char) : Cursor := (c.goTo rest).skip

/-- The next character that counts after a hyphen in a set; at most one comment sign is passed. -/
def peek (c : Cursor) (rest : List Char) : Option Char :=
  if c.spacing then
    match rest.dropWhile isBlank with
    | '#' :: cs => (cs.dropWhile isBlank).head?
    | cs => cs.head?
  else rest.head?

end Cursor

/-! ## Numbers in a pattern -/

/-- The value of a hexadecimal digit in either case. -/
def hexValue? (c : Char) : Option Nat :=
  if '0' ≤ c ∧ c ≤ '9' then some (c.toNat - '0'.toNat)
  else if 'a' ≤ c ∧ c ≤ 'f' then some (c.toNat - 'a'.toNat + 10)
  else if 'A' ≤ c ∧ c ≤ 'F' then some (c.toNat - 'A'.toNat + 10)
  else none

/-- The character with the given code point, if there is one. -/
def charOf? (n : Nat) : Option Char := if h : n.isValidChar then some (Char.ofNatAux n h) else none

/-- Reads exactly `count` hexadecimal digits. -/
def readHexDigits (value : Nat) : Nat → Cursor → Option (Nat × Cursor)
  | 0, c => some (value, c)
  | count + 1, c =>
    match c.rest with
    | [] => none
    | d :: rest =>
      match hexValue? d with
      | none => none
      | some v => readHexDigits (value * 16 + v) count (c.goToNext rest)

/-- Reads hexadecimal digits up to a closing brace. At most `steps` characters are read. -/
def readHexBraced (value : Option Nat) : Nat → Cursor → Option (Nat × Cursor)
  | 0, _ => none
  | steps + 1, c =>
    match c.rest with
    | [] => none
    | '}' :: rest => value.map fun n => (n, c.goToNext rest)
    | d :: rest =>
      match hexValue? d with
      | none => none
      | some v => readHexBraced (some (value.getD 0 * 16 + v)) steps (c.goToNext rest)

/-- Reads the digits of a count; where blanks are skipped, they may stand between the digits. -/
def readCountDigits (done : List Char) : Nat → Cursor → List Char × Cursor
  | 0, c => (done.reverse, c)
  | steps + 1, c =>
    match c.rest with
    | [] => (done.reverse, c)
    | d :: rest =>
      if isDigit d then readCountDigits (d :: done) steps (c.goToNext rest)
      else (done.reverse, c)

/-- The largest count of a repetition. -/
def countLimit : Nat := 4294967295

/-- Reads a count with blanks around it. The outer result is missing where a count is too large or
the text ends; the inner one where there are no digits. -/
def readCount (c : Cursor) : Option (Option Nat × Cursor) :=
  let start := c.goTo (c.rest.dropWhile isBlank)
  let (ds, c) := readCountDigits [] start.rest.length start
  let blanks := c.rest.takeWhile isBlank
  let c := if blanks.isEmpty then c else c.goToNext (c.rest.dropWhile isBlank)
  if ds.isEmpty then some (none, c)
  else
    let n := ofDigits ds
    if countLimit < n then none else some (some n, c)

/-! ## Names of groups -/

/-- Whether the character may stand in the name of a group. -/
def isNameChar (first : Bool) (c : Char) : Bool :=
  if c = '_' then true
  else if first then letters.contains c
  else c = '.' || c = '[' || c = ']' || letters.contains c || numerals.contains c

/-- Reads the name of a group up to its closing angle. -/
def readName (done : List Char) : List Char → Option (List Char × List Char)
  | [] => none
  | '>' :: rest => if done.isEmpty then none else some (done.reverse, rest)
  | c :: rest => if isNameChar done.isEmpty c then readName (c :: done) rest else none

end RuleVerdict.Pattern
