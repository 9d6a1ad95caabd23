import RuleVerdict.Json.Basic

/-!
# Reading JSON

Strict JSON: one value with blanks around it, blanks being space, tab, line feed and carriage
return. A character below the space stands in no text, a number has no leading zero, and a comma
is followed by another item.

A reader of JSON reads texts and says which binary number stands for a number that is written. What
is decoded from JSON is decoded with any reader; the standard one is in use.
-/

namespace RuleVerdict

namespace Json

open Text

/-- Whether the character may stand between the parts of a JSON value. -/
def isGap (c : Char) : Bool := c = ' ' || c = '\t' || c = '\n' || c = '\r'

/-- The text behind leading blanks. -/
def skipGap (cs : List Char) : List Char := cs.dropWhile isGap

/-- The rest of a text that begins with the given characters. -/
def after? : List Char → List Char → Option (List Char)
  | [], cs => some cs
  | w :: ws, c :: cs => if w = c then after? ws cs else none
  | _ :: _, [] => none

/-! ## Texts -/

/-- A part of a text between quotes: a character, or the 16 bits of a numeric escape. -/
inductive TextUnit where
  | char (c : Char)
  | code (n : Nat)
  deriving DecidableEq

/-- The value of a hexadecimal digit. -/
def hexDigit? (c : Char) : Option Nat :=
  if '0' ≤ c ∧ c ≤ '9' then some (c.toNat - '0'.toNat)
  else if 'a' ≤ c ∧ c ≤ 'f' then some (c.toNat - 'a'.toNat + 10)
  else if 'A' ≤ c ∧ c ≤ 'F' then some (c.toNat - 'A'.toNat + 10)
  else none

/-- The number that four hexadecimal digits write. -/
def hexCode? (a b c d : Char) : Option Nat := do
  let a ← hexDigit? a
  let b ← hexDigit? b
  let c ← hexDigit? c
  let d ← hexDigit? d
  return ((a * 16 + b) * 16 + c) * 16 + d

/-- The character of a short escape. -/
def shortEscape? (c : Char) : Option Char :=
  if c = '"' then some '"'
  else if c = '\\' then some '\\'
  else if c = '/' then some '/'
  else if c = 'b' then some '\x08'
  else if c = 'f' then some '\x0c'
  else if c = 'n' then some '\n'
  else if c = 'r' then some '\r'
  else if c = 't' then some '\t'
  else none

/-- The parts of a text up to its closing quote, and what follows that. -/
def textUnits : List Char → Option (List TextUnit × List Char)
  | [] => none
  | '"' :: rest => some ([], rest)
  | '\\' :: 'u' :: a :: b :: c :: d :: rest => do
    let n ← hexCode? a b c d
    let (us, rest) ← textUnits rest
    return (.code n :: us, rest)
  | '\\' :: c :: rest => do
    let c ← shortEscape? c
    let (us, rest) ← textUnits rest
    return (.char c :: us, rest)
  | c :: rest =>
    if c < ' ' ∨ c = '\\' then none
    else do
      let (us, rest) ← textUnits rest
      return (.char c :: us, rest)

/-- Puts the parts of a text together; two escapes may form one character, half of such a pair
forms none. -/
def combine : List TextUnit → Option (List Char)
  | [] => some []
  | .char c :: us => (combine us).map (c :: ·)
  | .code n :: .code m :: us =>
    if 0xD800 ≤ n ∧ n < 0xDC00 then
      if 0xDC00 ≤ m ∧ m < 0xE000 then
        (combine us).map (Char.ofNat (0x10000 + (n - 0xD800) * 0x400 + (m - 0xDC00)) :: ·)
      else none
    else if 0xDC00 ≤ n ∧ n < 0xE000 then none
    else (combine (.code m :: us)).map (Char.ofNat n :: ·)
  | .code n :: us =>
    if 0xD800 ≤ n ∧ n < 0xE000 then none else (combine us).map (Char.ofNat n :: ·)

/-- Reads a text behind its opening quote. -/
def readText (cs : List Char) : Option (Option String × List Char) :=
  (textUnits cs).map fun (us, rest) => ((combine us).map String.ofList, rest)

/-! ## Numbers -/

/-- Reads the digits before a point: zero alone, or digits that do not begin with zero. -/
def readWhole (cs : List Char) : Option (List Char × List Char) :=
  match cs with
  | '0' :: rest => if (rest.takeWhile isDigit).isEmpty then some (['0'], rest) else none
  | cs =>
    let ds := cs.takeWhile isDigit
    if ds.isEmpty then none else some (ds, cs.dropWhile isDigit)

/-- Reads one digit or more. -/
def readDigits (cs : List Char) : Option (List Char × List Char) :=
  let ds := cs.takeWhile isDigit
  if ds.isEmpty then none else some (ds, cs.dropWhile isDigit)

/-- Reads the digits behind a point, if there is one. -/
def readFraction : List Char → Option (Option (List Char) × List Char)
  | '.' :: cs => (readDigits cs).map fun (ds, rest) => (some ds, rest)
  | cs => some (none, cs)

/-- Reads an exponent, if there is one. -/
def readExponent : List Char → Option (Option (Bool × List Char) × List Char)
  | [] => some (none, [])
  | c :: cs =>
    if c = 'e' ∨ c = 'E' then
      match cs with
      | '-' :: cs => (readDigits cs).map fun (ds, rest) => (some (true, ds), rest)
      | '+' :: cs => (readDigits cs).map fun (ds, rest) => (some (false, ds), rest)
      | cs => (readDigits cs).map fun (ds, rest) => (some (false, ds), rest)
    else some (none, c :: cs)

/-- Reads a number behind its sign. -/
def readUnsigned (neg : Bool) (cs : List Char) : Option (JsonNumber × List Char) := do
  let (whole, cs) ← readWhole cs
  let (fraction, cs) ← readFraction cs
  let (exponent, cs) ← readExponent cs
  return (⟨neg, whole, fraction, exponent⟩, cs)

/-- Reads a number. -/
def readNumber : List Char → Option (JsonNumber × List Char)
  | '-' :: cs => readUnsigned true cs
  | cs => readUnsigned false cs

/-! ## Values -/

/-- Reads a value that is neither array nor object. -/
def readScalar (cs : List Char) : Option (Json × List Char) :=
  match cs with
  | '"' :: cs => (readText cs).map fun (s, rest) => (.text s, rest)
  | cs =>
    match after? ['n', 'u', 'l', 'l'] cs with
    | some rest => some (.null, rest)
    | none =>
      match after? ['t', 'r', 'u', 'e'] cs with
      | some rest => some (.bool true, rest)
      | none =>
        match after? ['f', 'a', 'l', 's', 'e'] cs with
        | some rest => some (.bool false, rest)
        | none => (readNumber cs).map fun (n, rest) => (.number n, rest)

mutual

/-- Reads a value behind blanks. Each step takes a character, so the length of the text bounds
the number of steps. -/
def readValue : Nat → List Char → Option (Json × List Char)
  | 0, _ => none
  | steps + 1, cs =>
    match skipGap cs with
    | '[' :: cs =>
      match skipGap cs with
      | ']' :: rest => some (.array [], rest)
      | cs => (readItems steps cs).map fun (vs, rest) => (.array vs, rest)
    | '{' :: cs =>
      match skipGap cs with
      | '}' :: rest => some (.object [], rest)
      | cs => (readMembers steps cs).map fun (ms, rest) => (.object ms, rest)
    | cs => readScalar cs

/-- Reads the items of an array up to its end. -/
def readItems : Nat → List Char → Option (List Json × List Char)
  | 0, _ => none
  | steps + 1, cs =>
    match readValue steps cs with
    | none => none
    | some (v, cs) =>
      match skipGap cs with
      | ',' :: cs => (readItems steps cs).map fun (vs, rest) => (v :: vs, rest)
      | ']' :: rest => some ([v], rest)
      | _ => none

/-- Reads the members of an object up to its end. -/
def readMembers : Nat → List Char → Option (List (Option String × Json) × List Char)
  | 0, _ => none
  | steps + 1, cs =>
    match skipGap cs with
    | '"' :: cs =>
      match readText cs with
      | none => none
      | some (name, cs) =>
        match skipGap cs with
        | ':' :: cs =>
          match readValue steps cs with
          | none => none
          | some (v, cs) =>
            match skipGap cs with
            | ',' :: cs => (readMembers steps cs).map fun (ms, rest) => ((name, v) :: ms, rest)
            | '}' :: rest => some ([(name, v)], rest)
            | _ => none
        | _ => none
    | _ => none

end

/-- The value that a whole text writes. -/
def read? (s : String) : Option Json :=
  let cs := s.toList
  match readValue (cs.length + 1) cs with
  | some (v, rest) => if (skipGap rest).isEmpty then some v else none
  | none => none

end Json

/-- A way to read JSON: the value that a text writes, and the binary number that stands for a number
that is written. -/
structure JsonReader where
  read? : String → Option Json
  number? : JsonNumber → Option Binary64

/-- The reader in use. -/
def JsonReader.standard : JsonReader := ⟨Json.read?, JsonNumber.toBinary64?⟩

end RuleVerdict
