import RuleVerdict.Json.Basic
import RuleVerdict.Text.Truth

/-!
# Writing JSON

The compact text of a JSON value: no blanks, members in order, and in texts only the quote, the
backslash and the characters below the space escaped, the common ones of these by a letter.

A binary number is written with its shortest digits, so that it never reads as an integer: around
a point when the point is among the first sixteen places or at most five places before the digits,
and with an exponent otherwise, which has a sign in either case.
-/

namespace RuleVerdict

open Text

/-- How a number is written whose digits begin `place` places before the point. -/
def JsonNumber.ofPlaces (neg : Bool) (ds : List Char) (place : Int) : JsonNumber :=
  if 0 < place ∧ place ≤ 16 then
    let n := place.toNat
    if ds.length ≤ n then ⟨neg, ds ++ List.replicate (n - ds.length) '0', some ['0'], none⟩
    else ⟨neg, ds.take n, some (ds.drop n), none⟩
  else if -5 < place ∧ place ≤ 0 then
    ⟨neg, ['0'], some (List.replicate (-place).toNat '0' ++ ds), none⟩
  else
    let exponent := some (decide (place - 1 < 0), toDigits (place - 1).natAbs)
    match ds with
    | d :: e :: rest => ⟨neg, [d], some (e :: rest), exponent⟩
    | ds => ⟨neg, ds, none, exponent⟩

/-- How a finite binary number is written. -/
def JsonNumber.ofBinary64 (x : Binary64) : JsonNumber :=
  if x.magnitude = 0 then ⟨x.negative, ['0'], some ['0'], none⟩
  else
    let d := x.shortest .even
    let ds := toDigits d.digits
    .ofPlaces x.negative ds (ds.length + d.exponent)

namespace Json

/-- The text of a number. -/
def renderNumber (n : JsonNumber) : List Char :=
  let sign := if n.negative then ['-'] else []
  let fraction :=
    match n.fraction with
    | none => []
    | some ds => '.' :: ds
  let exponent :=
    match n.exponent with
    | none => []
    | some (neg, ds) => 'e' :: (if neg then '-' else '+') :: ds
  sign ++ n.whole ++ fraction ++ exponent

/-- A hexadecimal digit in lower case. -/
def hexChar (n : Nat) : Char :=
  if n < 10 then Char.ofNat ('0'.toNat + n) else Char.ofNat ('a'.toNat + (n - 10))

/-- How a character stands between quotes. -/
def escape (c : Char) : List Char :=
  if c = '"' then ['\\', '"']
  else if c = '\\' then ['\\', '\\']
  else if c = '\x08' then ['\\', 'b']
  else if c = '\x0c' then ['\\', 'f']
  else if c = '\n' then ['\\', 'n']
  else if c = '\r' then ['\\', 'r']
  else if c = '\t' then ['\\', 't']
  else if c < ' ' then ['\\', 'u', '0', '0', hexChar (c.toNat / 16), hexChar (c.toNat % 16)]
  else [c]

/-- A text between quotes. -/
def quote (s : String) : List Char := '"' :: s.toList.flatMap escape ++ ['"']

mutual

/-- The compact text of a value. -/
def renderChars : Json → List Char
  | .null => ['n', 'u', 'l', 'l']
  | .bool b => (Text.truth b).toList
  | .number n => renderNumber n
  | .text s => quote (s.getD "")
  | .array vs => '[' :: renderItems vs ++ [']']
  | .object ms => '\x7b' :: renderMembers ms ++ ['\x7d']

/-- The texts of some values with commas between them. -/
def renderItems : List Json → List Char
  | [] => []
  | [v] => renderChars v
  | v :: w :: vs => renderChars v ++ ',' :: renderItems (w :: vs)

/-- The texts of some members with commas between them. -/
def renderMembers : List (Option String × Json) → List Char
  | [] => []
  | [m] => quote (m.1.getD "") ++ ':' :: renderChars m.2
  | m :: n :: ms => quote (m.1.getD "") ++ ':' :: renderChars m.2 ++ ',' :: renderMembers (n :: ms)

end

/-- The compact text of a value. -/
def render (v : Json) : String := String.ofList v.renderChars

end Json

end RuleVerdict
