import RuleVerdict.Unicode.Category
import RuleVerdict.Unicode.Trait

/-!
# Letters by the latest version

Patterns know the properties of characters as version 16 of the character set gives them. The
names of groups in a pattern, and the lower case of a text, follow version 17. This module holds
what that version added to the properties that those two ask for.
-/

namespace RuleVerdict.Unicode

/-- The characters that version 17 added to those that count as letters. -/
def addedLetters : CodeSet := .ofStretches [
    "88f 1 3cc 1 7f 1 9af1 2 2 1 1 1 1c 1 614e 1a 56b 3 32 2 c64 8 248 2c 50c4 19 2 19 11e 5",
    "1801 8 509 16 61 73 58cd 1f 1 16 8 2 d03a 6 1762 c 5502 10ca"]

/-- The characters with a numeric category that version 17 added. -/
def addedNumerals : CodeSet := .ofStretches [
    "11de0 a 520a 3"]

/-- The characters that version 17 added to those with letter case. -/
def addedCased : CodeSet := .ofStretches [
    "a7ce 2 2 1 1 1 1c 1 c6ae 19 2 19"]

/-- The characters that version 17 added to those passed over where letter case is decided. -/
def addedCaseIgnorable : CodeSet := .ofStretches [
    "1acf f 2 c 8d05 1 66d3 1 34 2 c64 1 1 3 1 1 272 1 5218 2 76ef 1 2 1 7 2 5 1 9 1"]

/-- The letters and all other characters that count as letters. -/
def letters : CodeSet := alphabetic.union addedLetters

/-- The characters with a numeric category. -/
def numerals : CodeSet := (ofCategories ["nd", "nl", "no"]).union addedNumerals

/-- The characters that have letter case, or are a form of such a character. Version 17 made a
letter without case of U+0295. -/
def cased : CodeSet := ((trait "cased").union addedCased).diff (.single 0x295)

/-- The characters that are passed over where letter case is decided by the neighbours. -/
def caseIgnorable : CodeSet := (trait "caseignorable").union addedCaseIgnorable

end RuleVerdict.Unicode
