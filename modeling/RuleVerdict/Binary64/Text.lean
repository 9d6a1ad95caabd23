import RuleVerdict.Binary64.Shortest

/-!
# Numbers as text

A number is shown by its shortest decimal digits around a point, never with an exponent: zeros
fill up to the point on either side, and a whole number has no point. A list item is read as a
number when it is a decimal number with or without point and exponent, or one of the words for
infinity and for what is no number, in any letter case.
-/

namespace RuleVerdict

open Text

/-- The digits of `digits * 10 ^ exponent` around the point. -/
def Decimal.positional (digits : Nat) (exponent : Int) : List Char :=
  let ds := toDigits digits
  match exponent with
  | .ofNat e => ds ++ List.replicate e '0'
  | .negSucc e =>
    if ds.length ≤ e + 1 then '0' :: '.' :: List.replicate (e + 1 - ds.length) '0' ++ ds
    else ds.take (ds.length - (e + 1)) ++ '.' :: ds.drop (ds.length - (e + 1))

namespace Binary64

/-- A minus sign before the text of a negative number. -/
def signed (neg : Bool) (cs : List Char) : List Char := if neg then '-' :: cs else cs

/-- The text of a number, character by character. -/
def renderChars (x : Binary64) : List Char :=
  if x.isNaN then ['N', 'a', 'N']
  else if x.isInfinite then signed x.negative ['i', 'n', 'f']
  else if x.magnitude = 0 then signed x.negative ['0']
  else
    let d := x.shortest .upper
    signed x.negative (Decimal.positional d.digits d.exponent)

/-- The text of a number. -/
def render (x : Binary64) : String := String.ofList x.renderChars

/-- The lower case of an ASCII letter; every other character stays. -/
def asciiLower (c : Char) : Char := if 'A' ≤ c ∧ c ≤ 'Z' then Char.ofNat (c.toNat + 32) else c

/-- Whether a text is the given word in lower case, in any letter case. -/
def isWord (word : String) (cs : List Char) : Bool := cs.map asciiLower == word.toList

/-- The number that a text without sign writes. -/
def readUnsigned? (neg : Bool) (cs : List Char) : Option Binary64 :=
  if isWord "inf" cs || isWord "infinity" cs then some (infinity neg)
  else if isWord "nan" cs then some nan
  else
    match Decimal.readUnsigned neg cs with
    | some (d, []) => some (ofDecimal d)
    | _ => none

/-- The number that a whole text writes. -/
def read? : List Char → Option Binary64
  | '-' :: cs => readUnsigned? true cs
  | '+' :: cs => readUnsigned? false cs
  | cs => readUnsigned? false cs

end Binary64

end RuleVerdict
