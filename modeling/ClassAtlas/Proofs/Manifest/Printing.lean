import Mathlib.Data.Bool.AllAny
import Mathlib.Tactic.SplitIfs
import ClassAtlas.Json.Printer
import ClassAtlas.Proofs.Manifest.Value

/-! # Printing manifest values

    Every value has spellings: whatever gap stands before each lexeme, and
    whichever way the characters of quoted texts are escaped, the printed text
    spells the value.
-/

namespace ClassAtlas.Manifest

/-! ## Escapes -/

/-- The four lowercase hexadecimal digits of a number. -/
def quadDigits (n : Nat) : List Char :=
  [Hex.lower (n / 0x1000 % 16), Hex.lower (n / 0x100 % 16), Hex.lower (n / 0x10 % 16),
   Hex.lower (n % 16)]

theorem isHexDigit_lower {n : Nat} (h : n < 16) : IsHexDigit n (Hex.lower n) := ⟨h, .inl rfl⟩

theorem isQuad_quadDigits {n : Nat} (h : n < 0x10000) : IsQuad n (quadDigits n) := by
  have hquad := IsQuad.digits
    (isHexDigit_lower (Nat.mod_lt (n / 0x1000) (by decide : 0 < 16)))
    (isHexDigit_lower (Nat.mod_lt (n / 0x100) (by decide : 0 < 16)))
    (isHexDigit_lower (Nat.mod_lt (n / 0x10) (by decide : 0 < 16)))
    (isHexDigit_lower (Nat.mod_lt n (by decide : 0 < 16)))
  have hn : ((n / 0x1000 % 16 * 16 + n / 0x100 % 16) * 16 + n / 0x10 % 16) * 16 + n % 16 = n := by
    omega
  rw [hn] at hquad
  exact hquad

/-- A character by its number, or by its two surrogates. -/
def numericEscape (c : Char) : List Char :=
  if c.toNat < 0x10000 then '\\' :: 'u' :: quadDigits c.toNat
  else
    '\\' :: 'u' :: quadDigits (0xD800 + (c.toNat - 0x10000) / 0x400)
      ++ '\\' :: 'u' :: quadDigits (0xDC00 + (c.toNat - 0x10000) % 0x400)

theorem charSpelling_numericEscape (c : Char) : CharSpelling c (numericEscape c) := by
  have hbound : c.toNat < 0x110000 := by
    have hvalid := c.valid
    simp only [UInt32.isValidChar, Nat.isValidChar] at hvalid
    simp only [Char.toNat]
    omega
  unfold numericEscape
  by_cases hc : c.toNat < 0x10000
  · rw [if_pos hc]
    exact .unit (isQuad_quadDigits hc)
  · rw [if_neg hc]
    exact .pair (Nat.not_lt.1 hc) (isQuad_quadDigits (by omega)) (isQuad_quadDigits (by omega))

theorem quadDigits_of_lt {n : Nat} (h : n < 0x20) :
    ['0', '0'] ++ Hex.byteLower (UInt8.ofNat n) = quadDigits n := by
  have hall : ∀ m < 0x20, ['0', '0'] ++ Hex.byteLower (UInt8.ofNat m) = quadDigits m := by decide
  exact hall n h

/-- What escapes the strings of reports escapes those of manifests too. -/
theorem charSpelling_escapeChar (c : Char) : CharSpelling c (Json.escapeChar c) := by
  unfold Json.escapeChar
  split_ifs with hself hb hf hn hr ht hcontrol
  · rcases hself with rfl | rfl
    · exact .short (by decide)
    · exact .short (by decide)
  · exact .short (by rw [hb]; decide)
  · exact .short (by rw [hf]; decide)
  · exact .short (by rw [hn]; decide)
  · exact .short (by rw [hr]; decide)
  · exact .short (by rw [ht]; decide)
  · have hquad : IsQuad c.toNat (quadDigits c.toNat) := isQuad_quadDigits (by omega)
    rw [← quadDigits_of_lt hcontrol] at hquad
    exact .unit hquad
  · -- whatever is left is written as it is
    rw [not_or] at hself
    exact .raw (Nat.not_lt.1 hcontrol) hself.1 hself.2

/-! ## Styles -/

/-- What stands before each lexeme, and how characters are escaped. -/
structure Style where
  gap : List Char
  escape : Char → List Char
  isGap : IsGap gap
  spells : ∀ c, CharSpelling c (escape c)

namespace Style

/-- No gaps, and only the escapes that cannot be done without. -/
def compact : Style where
  gap := []
  escape := Json.escapeChar
  isGap := nofun
  spells := charSpelling_escapeChar

/-- Every lexeme on a line of its own, and every character by its number. -/
def numeric : Style where
  gap := ['\r', '\n', '\t', ' ']
  escape := numericEscape
  isGap := List.all_iff_forall_prop.1 (by decide)
  spells := charSpelling_numericEscape

def lexeme (style : Style) : Lexeme → List Char
  | .mark m => [m.char]
  | .null => "null".toList
  | .bool true => "true".toList
  | .bool false => "false".toList
  | .number n => n.chars
  | .text s => '\"' :: s.toList.flatMap style.escape ++ ['\"']

/-- The text of lexemes, closed by one more gap. -/
def chars (style : Style) : List Lexeme → List Char
  | [] => style.gap
  | l :: ls => style.gap ++ (style.lexeme l ++ style.chars ls)

def print (style : Style) (v : Value) : String := String.ofList (style.chars v.lexemes)

variable (style : Style)

theorem textSpelling (cs : List Char) : TextSpelling cs (cs.flatMap style.escape) := by
  induction cs with
  | nil => exact .nil
  | cons c cs ih => exact .cons (style.spells c) ih

theorem lexemeSpelling (l : Lexeme) : LexemeSpelling l (style.lexeme l) := by
  cases l with
  | mark m => exact .mark m
  | null => exact .null
  | bool b =>
    cases b with
    | true => exact .true
    | false => exact .false
  | number n => exact .number n
  | text s => exact .text (style.textSpelling s.toList)

theorem spelling (ls : List Lexeme) : Spelling ls (style.chars ls) := by
  induction ls with
  | nil => exact .nil style.isGap
  | cons l ls ih => exact .cons style.isGap (style.lexemeSpelling l) ih

/-- What is printed spells the value. -/
theorem spelledAs_print (v : Value) : v.SpelledAs (style.print v) := by
  show Spelling v.lexemes (style.print v).toList
  rw [print, String.toList_ofList]
  exact style.spelling v.lexemes

end Style

end ClassAtlas.Manifest
