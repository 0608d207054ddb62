import ClassAtlas.Manifest.Tape

/-! # Manifest values and their spellings

    A manifest text spells a tree of values.  The tree keeps the fields of an
    object in order and says nothing of layout; the texts of a tree differ in
    the blanks between its lexemes and in how the characters of its quoted
    texts are escaped, and in nothing else.
-/

namespace ClassAtlas.Manifest

/-! ## Numbers -/

/-- One digit or more. -/
def IsDigits (cs : List Char) : Prop := cs ≠ [] ∧ ∀ c ∈ cs, c.isDigit

/-- The digits before the point: no zero stands in front of other digits. -/
inductive IsWhole : List Char → Prop where
  | zero : IsWhole ['0']
  | digits {d : Char} {ds : List Char} : d ≠ '0' → IsDigits (d :: ds) → IsWhole (d :: ds)

/-- The point and the digits after it. -/
inductive IsFraction : List Char → Prop where
  | none : IsFraction []
  | some {ds : List Char} : IsDigits ds → IsFraction ('.' :: ds)

/-- The letter, the sign and the digits of an exponent. -/
inductive IsExponent : List Char → Prop where
  | none : IsExponent []
  | some {letter : Char} {sign ds : List Char} :
      letter ∈ ['e', 'E'] → sign ∈ [[], ['+'], ['-']] → IsDigits ds →
      IsExponent (letter :: sign ++ ds)

/-- A number as it is written. -/
structure Numeral where
  isNegative : Bool := false
  whole : List Char
  fraction : List Char := []
  exponent : List Char := []
  isWhole : IsWhole whole
  isFraction : IsFraction fraction := by exact .none
  isExponent : IsExponent exponent := by exact .none

namespace Numeral

def chars (n : Numeral) : List Char :=
  (if n.isNegative then ['-'] else []) ++ n.whole ++ n.fraction ++ n.exponent

theorem exists_digit_of_isWhole {cs : List Char} (h : IsWhole cs) :
    ∃ d ds, cs = d :: ds ∧ d.isDigit := by
  cases h with
  | zero => exact ⟨'0', [], rfl, by decide⟩
  | @digits d ds _ h => exact ⟨d, ds, rfl, h.2 d List.mem_cons_self⟩

/-- A number opens with a minus sign or a digit. -/
theorem exists_chars_eq (n : Numeral) : ∃ c cs, n.chars = c :: cs ∧ (c = '-' ∨ c.isDigit) := by
  obtain ⟨d, ds, hd, hdigit⟩ := exists_digit_of_isWhole n.isWhole
  cases hs : n.isNegative with
  | true => exact ⟨'-', n.whole ++ n.fraction ++ n.exponent, by simp [chars, hs], .inl rfl⟩
  | false => exact ⟨d, ds ++ n.fraction ++ n.exponent, by simp [chars, hs, hd], .inr hdigit⟩

end Numeral

/-! ## Values -/

inductive Value where
  | null
  | bool (value : Bool)
  | number (numeral : Numeral)
  | text (value : String)
  | list (items : List Value)
  | object (fields : List (String × Value))

/-- A piece of a text that blanks may stand around. -/
inductive Lexeme where
  | mark (m : Mark)
  | null
  | bool (value : Bool)
  | number (numeral : Numeral)
  | text (value : String)

/-- The comma before all but the first part of a list or object. -/
def separator (isFirst : Bool) : List Lexeme := if isFirst then [] else [.mark .comma]

mutual

/-- The lexemes of a value, in order. -/
def Value.lexemes : Value → List Lexeme
  | .null => [.null]
  | .bool b => [.bool b]
  | .number n => [.number n]
  | .text s => [.text s]
  | .list items => .mark .openList :: (itemLexemes true items ++ [.mark .closeList])
  | .object fields => .mark .openObject :: (fieldLexemes true fields ++ [.mark .closeObject])

def itemLexemes (isFirst : Bool) : List Value → List Lexeme
  | [] => []
  | v :: vs => separator isFirst ++ (v.lexemes ++ itemLexemes false vs)

def fieldLexemes (isFirst : Bool) : List (String × Value) → List Lexeme
  | [] => []
  | (name, v) :: fields =>
    separator isFirst ++ (.text name :: .mark .colon :: (v.lexemes ++ fieldLexemes false fields))

end

/-! ## Spellings -/

def Mark.char : Mark → Char
  | .openObject => '\x7b'
  | .closeObject => '\x7d'
  | .openList => '['
  | .closeList => ']'
  | .comma => ','
  | .colon => ':'

/-- The letters that stand for a character after a backslash. -/
def shortEscapes : List (Char × Char) :=
  [('\"', '\"'), ('\\', '\\'), ('/', '/'), ('b', '\x08'), ('f', '\x0c'), ('n', '\n'), ('r', '\r'),
   ('t', '\t')]

/-- A hexadecimal digit of either case. -/
def IsHexDigit (n : Nat) (c : Char) : Prop := n < 16 ∧ (c = Hex.lower n ∨ c = Hex.upper n)

/-- The four hexadecimal digits of a number. -/
inductive IsQuad : Nat → List Char → Prop where
  | digits {n₃ n₂ n₁ n₀ : Nat} {c₃ c₂ c₁ c₀ : Char} :
      IsHexDigit n₃ c₃ → IsHexDigit n₂ c₂ → IsHexDigit n₁ c₁ → IsHexDigit n₀ c₀ →
      IsQuad (((n₃ * 16 + n₂) * 16 + n₁) * 16 + n₀) [c₃, c₂, c₁, c₀]

/-- The ways to write a character of a quoted text. -/
inductive CharSpelling (c : Char) : List Char → Prop where
  | raw : 0x20 ≤ c.toNat → c ≠ '\"' → c ≠ '\\' → CharSpelling c [c]
  | short {letter : Char} : (letter, c) ∈ shortEscapes → CharSpelling c ['\\', letter]
  | unit {digits : List Char} : IsQuad c.toNat digits → CharSpelling c ('\\' :: 'u' :: digits)
  /-- A character beyond the first plane, by its two surrogates. -/
  | pair {high low : List Char} :
      0x10000 ≤ c.toNat → IsQuad (0xD800 + (c.toNat - 0x10000) / 0x400) high →
      IsQuad (0xDC00 + (c.toNat - 0x10000) % 0x400) low →
      CharSpelling c ('\\' :: 'u' :: high ++ '\\' :: 'u' :: low)

/-- The ways to write the characters between two quotes. -/
inductive TextSpelling : List Char → List Char → Prop where
  | nil : TextSpelling [] []
  | cons {c : Char} {cs spelled rest : List Char} :
      CharSpelling c spelled → TextSpelling cs rest → TextSpelling (c :: cs) (spelled ++ rest)

inductive LexemeSpelling : Lexeme → List Char → Prop where
  | mark (m : Mark) : LexemeSpelling (.mark m) [m.char]
  | null : LexemeSpelling .null "null".toList
  | true : LexemeSpelling (.bool true) "true".toList
  | false : LexemeSpelling (.bool false) "false".toList
  | number (n : Numeral) : LexemeSpelling (.number n) n.chars
  | text {s : String} {spelled : List Char} :
      TextSpelling s.toList spelled → LexemeSpelling (.text s) ('\"' :: spelled ++ ['\"'])

/-- Blanks and ends of lines. -/
def IsGap (cs : List Char) : Prop := ∀ c ∈ cs, c ∈ [' ', '\t', '\r', '\n']

/-- The ways to write lexemes one after the other. -/
inductive Spelling : List Lexeme → List Char → Prop where
  | nil {gap : List Char} : IsGap gap → Spelling [] gap
  | cons {l : Lexeme} {ls : List Lexeme} {gap spelled rest : List Char} :
      IsGap gap → LexemeSpelling l spelled → Spelling ls rest →
      Spelling (l :: ls) (gap ++ (spelled ++ rest))

/-- The text writes the value, in whatever layout. -/
def Value.SpelledAs (v : Value) (text : String) : Prop := Spelling v.lexemes text.toList

end ClassAtlas.Manifest
