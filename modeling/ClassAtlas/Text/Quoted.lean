import ClassAtlas.Text.Hex
import ClassAtlas.Text.Unprintable

/-! # Quoted text

    How a message shows a text that it found: between quotes, on one line, with
    every character that does not show on its own written as an escape.
-/

namespace ClassAtlas.Quoted

/-- A character as its code point in braces. -/
def codePoint (c : Char) : List Char :=
  ['\\', 'u', '\x7b'] ++ Nat.toDigits 16 c.toNat ++ ['\x7d']

/-- A character as it stands between the quotes. -/
def encodeChar (c : Char) : List Char :=
  if c = '\x00' then ['\\', '0']
  else if c = '\t' then ['\\', 't']
  else if c = '\r' then ['\\', 'r']
  else if c = '\n' then ['\\', 'n']
  else if c = '\\' ∨ c = '\"' then ['\\', c]
  else if c.toNat < 0x20 ∨ Unprintable.contains c then codePoint c
  else [c]

/-- A text between quotes. -/
def encode (s : String) : String :=
  String.ofList ('\"' :: s.toList.flatMap encodeChar ++ ['\"'])

end ClassAtlas.Quoted
