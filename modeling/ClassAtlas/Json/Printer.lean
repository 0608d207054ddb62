import ClassAtlas.Json.Basic
import ClassAtlas.Text.Hex

/-! # Printing JSON

    The laid-out text of a value: every item of an array and every field of an
    object has a line of its own, two blanks further in than the brackets, and
    what is empty stays on one line.  In strings only quotes, backslashes and
    control characters are escaped.
-/

namespace ClassAtlas.Json

/-! ## Strings -/

/-- A character as it stands between the quotes. -/
def escapeChar (c : Char) : List Char :=
  if c = '\"' ∨ c = '\\' then ['\\', c]
  else if c = '\x08' then ['\\', 'b']
  else if c = '\x0c' then ['\\', 'f']
  else if c = '\n' then ['\\', 'n']
  else if c = '\r' then ['\\', 'r']
  else if c = '\t' then ['\\', 't']
  else if c.toNat < 0x20 then ['\\', 'u', '0', '0'] ++ Hex.byteLower (UInt8.ofNat c.toNat)
  else [c]

/-- A text between quotes. -/
def printString (s : String) : List Char :=
  '\"' :: s.toList.flatMap escapeChar ++ ['\"']

/-! ## Values -/

/-- The end of a line, and the blanks that open the next one. -/
def newline (depth : Nat) : List Char := '\n' :: List.replicate (2 * depth) ' '

mutual

/-- The text of a value that stands `depth` brackets deep. -/
def print (depth : Nat) : Json → List Char
  | .number n => Nat.toDigits 10 n
  | .string s => printString s
  | .array [] => ['[', ']']
  | .array (item :: items) =>
    '[' :: newline (depth + 1) ++ print (depth + 1) item ++ printItems (depth + 1) items
      ++ newline depth ++ [']']
  | .object [] => ['\x7b', '\x7d']
  | .object ((name, value) :: fields) =>
    '\x7b' :: newline (depth + 1) ++ printField (depth + 1) name value
      ++ printFields (depth + 1) fields ++ newline depth ++ ['\x7d']

/-- A field of an object. -/
def printField (depth : Nat) (name : String) (value : Json) : List Char :=
  printString name ++ [':', ' '] ++ print depth value

/-- The items after the first. -/
def printItems (depth : Nat) : List Json → List Char
  | [] => []
  | item :: items => ',' :: newline depth ++ print depth item ++ printItems depth items

/-- The fields after the first. -/
def printFields (depth : Nat) : List (String × Json) → List Char
  | [] => []
  | (name, value) :: fields =>
    ',' :: newline depth ++ printField depth name value ++ printFields depth fields

end

/-- The text of a value. -/
def text (j : Json) : String := String.ofList (j.print 0)

end ClassAtlas.Json
