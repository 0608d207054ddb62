import ClassAtlas.Text.Letters
import ClassAtlas.Text.Marks
import ClassAtlas.Text.Numerals
import ClassAtlas.Text.Symbols

/-! # Properties of characters

    What text rules ask of characters beyond ASCII: whether they are alphabetic,
    numeric or blank, and whether they belong to words.
-/

namespace ClassAtlas.CharProperty

/-- The ranges of symbols that are letters in a circle or square. -/
def enclosedRanges : List CodeRange :=
  [(0x24B6, 0x24E9), (0x1F130, 0x1F149), (0x1F150, 0x1F169), (0x1F170, 0x1F189)]

def isEnclosed (c : Char) : Bool := CodeRange.anyHolds enclosedRanges c

/-- Letters, the numerals and marks that count as letters, and enclosed letters. -/
def isAlphabetic (c : Char) : Bool :=
  Letters.contains c || Numerals.isLetter c || Marks.isAlphabetic c || isEnclosed c

def isAlphanumeric (c : Char) : Bool := isAlphabetic c || Numerals.contains c

/-- Separators, and the controls that move on. -/
def isBlank (c : Char) : Bool :=
  (0x09 ≤ c.toNat && c.toNat ≤ 0x0D) || c.toNat == 0x85 || Separators.contains c

/-- The two characters that join or separate their neighbours without a width. -/
def isJoiner (c : Char) : Bool := c.toNat == 0x200C || c.toNat == 0x200D

/-- Letters, marks, digits, and what connects words. -/
def isWord (c : Char) : Bool :=
  Letters.contains c || Marks.contains c || Numerals.isDigit c || Numerals.isLetter c
    || Punctuation.isConnector c || isEnclosed c || isJoiner c

end ClassAtlas.CharProperty
