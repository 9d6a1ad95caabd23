import RuleVerdict.Unicode.Age
import RuleVerdict.Unicode.Category
import RuleVerdict.Unicode.Script
import RuleVerdict.Unicode.Segmentation
import RuleVerdict.Unicode.Trait

/-!
# Properties by name

A set of characters is asked for by one name, which may be a yes-or-no property, a general
category or a script, or by the name of a property and one of its values. Names are compared in
their normal form: ASCII only, lower case, without spaces, hyphens and underscores, and without a
leading `is`.
-/

namespace RuleVerdict.Unicode

/-- The lower case of the characters that count in a property name. -/
def nameChars (cs : List Char) : List Char :=
  cs.filterMap fun c =>
    if c = ' ' ∨ c = '_' ∨ c = '-' ∨ 0x7F < c.toNat then none
    else if 'A' ≤ c ∧ c ≤ 'Z' then some (Char.ofNat (c.toNat + 32))
    else some c

/-- The normal form of a property name. The name `isc` is one of its own and not `c` with `is`
before it. -/
def normalNameChars : List Char → List Char
  | i :: s :: rest =>
    if (i = 'i' ∨ i = 'I') ∧ (s = 's' ∨ s = 'S') then
      let cs := nameChars rest
      if cs = ['c'] then ['i', 's', 'c'] else cs
    else nameChars (i :: s :: rest)
  | cs => nameChars cs

/-- The normal form of a property name. -/
def normalName (s : String) : String := String.ofList (normalNameChars s.toList)

/-- The set that a single name asks for. Three names of categories are also short names of
properties that cannot be asked for. -/
def namedSet? (name : String) : Option CodeSet :=
  let n := normalName name
  let trait := if n = "cf" ∨ n = "sc" ∨ n = "lc" then none else trait? n
  (trait.or (category? n)).or (script? n)

/-- The set that a property and a value ask for. -/
def valueSet? (property value : String) : Option CodeSet :=
  let p := normalName property
  let v := normalName value
  if p = "gc" ∨ p = "generalcategory" then category? v
  else if p = "sc" ∨ p = "script" then script? v
  else if p = "scx" ∨ p = "scriptextensions" then scriptExtension? v
  else if p = "age" then age? v
  else if p = "gcb" ∨ p = "graphemeclusterbreak" then find? graphemeRows v
  else if p = "wb" ∨ p = "wordbreak" then find? wordRows v
  else if p = "sb" ∨ p = "sentencebreak" then find? sentenceRows v
  else none

/-- The characters of words: letters, marks, decimal digits, connectors and join controls. -/
def wordCharacters : CodeSet :=
  .unions [alphabetic, ofCategories ["mn", "mc", "me", "nd", "pc"], joinControl]

/-- The blank characters. -/
def whiteSpace : CodeSet := trait "whitespace"

end RuleVerdict.Unicode
