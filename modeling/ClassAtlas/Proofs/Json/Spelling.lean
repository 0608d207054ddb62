import ClassAtlas.Proofs.Manifest.Printing

/-! # Printed values are spelled values

    The text that a JSON value is printed as spells the value in the grammar of
    manifests (`Json.spelledAs_text`), with strings of any characters in it and
    however deep it nests.  So whatever reads that grammar reads the reports.
-/

namespace ClassAtlas

namespace Manifest

/-! ## Decimal digits -/

theorem digitChar_ne_zero {n : Nat} (hpos : 0 < n) (hlt : n < 10) : n.digitChar ≠ '0' := by
  have hall : ∀ m < 10, 0 < m → m.digitChar ≠ '0' := by decide
  exact hall n hlt hpos

theorem isDigits_toDigits (n : Nat) : IsDigits (Nat.toDigits 10 n) :=
  ⟨Nat.toDigits_ne_nil, fun _ hc => Nat.isDigit_of_mem_toDigits (by decide) (by decide) hc⟩

/-- Of a number that is not zero the first digit is none. -/
theorem exists_toDigits_eq_cons {n : Nat} (h : 0 < n) :
    ∃ d ds, Nat.toDigits 10 n = d :: ds ∧ d ≠ '0' := by
  induction n using Nat.base_induction 10 (by decide) with
  | single m hm => exact ⟨_, [], Nat.toDigits_of_lt_base hm, digitChar_ne_zero h hm⟩
  | digit m k hk hm ih =>
    obtain ⟨d, ds, hd, hne⟩ := ih hm
    refine ⟨d, ds ++ Nat.toDigits 10 k, ?_, hne⟩
    rw [← Nat.toDigits_append_toDigits (by decide) hm hk, hd, List.cons_append]

theorem isWhole_toDigits (n : Nat) : IsWhole (Nat.toDigits 10 n) := by
  by_cases h : n = 0
  · rw [h, Nat.toDigits_zero]
    exact .zero
  · obtain ⟨d, ds, hd, hne⟩ := exists_toDigits_eq_cons (Nat.pos_of_ne_zero h)
    have hdigits := isDigits_toDigits n
    rw [hd] at hdigits ⊢
    exact .digits hne hdigits

namespace Numeral

/-- A count, without sign, fraction or exponent. -/
def ofNat (n : Nat) : Numeral where
  whole := Nat.toDigits 10 n
  isWhole := isWhole_toDigits n

@[simp]
theorem chars_ofNat (n : Nat) : (ofNat n).chars = Nat.toDigits 10 n := by simp [chars, ofNat]

end Numeral

/-! ## Lexemes behind a gap -/

theorem isGap_nil : IsGap [] := List.forall_mem_nil _

theorem Spelling.mark {gap rest : List Char} {ls : List Lexeme} (m : Mark) (hgap : IsGap gap)
    (h : Spelling ls rest) : Spelling (.mark m :: ls) (gap ++ m.char :: rest) :=
  .cons hgap (.mark m) h

end Manifest

open Manifest

namespace Json

/-! ## The value that is printed -/

mutual

def value : Json → Value
  | .number n => .number (.ofNat n)
  | .string s => .text s
  | .array items => .list (itemValues items)
  | .object fields => .object (fieldValues fields)

def itemValues : List Json → List Value
  | [] => []
  | item :: items => item.value :: itemValues items

def fieldValues : List (String × Json) → List (String × Value)
  | [] => []
  | (name, j) :: fields => (name, j.value) :: fieldValues fields

end

theorem itemValues_eq_map (items : List Json) : itemValues items = items.map value := by
  induction items with
  | nil => rfl
  | cons item items ih => rw [itemValues, ih, List.map_cons]

/-! ## What is printed spells it -/

theorem isGap_newline (depth : Nat) : IsGap (newline depth) := by
  intro c hc
  rcases List.mem_cons.1 hc with rfl | hc
  · decide
  · rw [(List.mem_replicate.1 hc).2]
    decide

theorem lexemeSpelling_printString (s : String) : LexemeSpelling (.text s) (printString s) :=
  .text (Style.compact.textSpelling s.toList)

mutual

/-- The lexemes of a value, behind a gap and in front of any others. -/
theorem spelling_print (j : Json) (depth : Nat) {gap rest : List Char} {ls : List Lexeme}
    (hgap : IsGap gap) (h : Spelling ls rest) :
    Spelling (j.value.lexemes ++ ls) (gap ++ (j.print depth ++ rest)) := by
  match j with
  | .number n =>
    rw [print, ← Numeral.chars_ofNat]
    exact .cons hgap (.number _) h
  | .string s =>
    rw [print]
    exact .cons hgap (lexemeSpelling_printString s) h
  | .array [] =>
    have hopen := Spelling.mark .openList hgap (.mark .closeList isGap_nil h)
    simpa [value, itemValues, Value.lexemes, itemLexemes, print, Mark.char] using hopen
  | .array (item :: items) =>
    have hclose : Spelling (.mark .closeList :: ls) (newline depth ++ ']' :: rest) :=
      .mark .closeList (isGap_newline depth) h
    have hitems := spelling_printItems items (depth + 1) hclose
    have hitem := spelling_print item (depth + 1) (isGap_newline (depth + 1)) hitems
    have hopen := Spelling.mark .openList hgap hitem
    simpa [value, itemValues, Value.lexemes, itemLexemes, separator, print, Mark.char] using hopen
  | .object [] =>
    have hopen := Spelling.mark .openObject hgap (.mark .closeObject isGap_nil h)
    simpa [value, fieldValues, Value.lexemes, fieldLexemes, print, Mark.char] using hopen
  | .object ((name, j) :: fields) =>
    have hclose : Spelling (.mark .closeObject :: ls) (newline depth ++ '\x7d' :: rest) :=
      .mark .closeObject (isGap_newline depth) h
    have hfields := spelling_printFields fields (depth + 1) hclose
    have hfield := spelling_printField name j (depth + 1) (isGap_newline (depth + 1)) hfields
    have hopen := Spelling.mark .openObject hgap hfield
    simpa [value, fieldValues, Value.lexemes, fieldLexemes, separator, print, Mark.char] using hopen

theorem spelling_printField (name : String) (j : Json) (depth : Nat) {gap rest : List Char}
    {ls : List Lexeme} (hgap : IsGap gap) (h : Spelling ls rest) :
    Spelling (.text name :: .mark .colon :: (j.value.lexemes ++ ls))
      (gap ++ (printField depth name j ++ rest)) := by
  have hgap' : IsGap [' '] := List.all_iff_forall_prop.1 (by decide)
  have hvalue := spelling_print j depth hgap' h
  have hcolon := Spelling.mark .colon isGap_nil hvalue
  have hname := Spelling.cons hgap (lexemeSpelling_printString name) hcolon
  simpa [printField, Mark.char] using hname

/-- Items after the first, each with its comma. -/
theorem spelling_printItems (items : List Json) (depth : Nat) {rest : List Char}
    {ls : List Lexeme} (h : Spelling ls rest) :
    Spelling (itemLexemes false (itemValues items) ++ ls) (printItems depth items ++ rest) := by
  match items with
  | [] => simpa [itemValues, itemLexemes, printItems] using h
  | item :: items =>
    have hitem := spelling_print item depth (isGap_newline depth)
      (spelling_printItems items depth h)
    have hcomma := Spelling.mark .comma isGap_nil hitem
    simpa [itemValues, itemLexemes, separator, printItems, Mark.char] using hcomma

/-- Fields after the first, each with its comma. -/
theorem spelling_printFields (fields : List (String × Json)) (depth : Nat) {rest : List Char}
    {ls : List Lexeme} (h : Spelling ls rest) :
    Spelling (fieldLexemes false (fieldValues fields) ++ ls)
      (printFields depth fields ++ rest) := by
  match fields with
  | [] => simpa [fieldValues, fieldLexemes, printFields] using h
  | (name, j) :: fields =>
    have hfield := spelling_printField name j depth (isGap_newline depth)
      (spelling_printFields fields depth h)
    have hcomma := Spelling.mark .comma isGap_nil hfield
    simpa [fieldValues, fieldLexemes, separator, printFields, Mark.char] using hcomma

end

/-- A printed value, and the end of the line that it is printed on. -/
theorem spelledAs_text (j : Json) : j.value.SpelledAs (j.text ++ "\n") := by
  have hend : Spelling [] ['\n'] := .nil (List.all_iff_forall_prop.1 (by decide))
  have hprint := j.spelling_print 0 isGap_nil hend
  show Spelling j.value.lexemes (j.text ++ "\n").toList
  simpa [text] using hprint

end Json

end ClassAtlas
