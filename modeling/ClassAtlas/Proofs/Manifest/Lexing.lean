import Mathlib.Data.Bool.AllAny
import ClassAtlas.Proofs.Manifest.Value

/-! # Lexing spelled values

    Every spelling of lexemes is taken apart into just these lexemes
    (`Tape.shows_ofChars`): blanks vanish, and an escaped character is the same
    as the character.

    Of a number only this is said, that a number or a number at fault stands
    there.  No reader of manifests goes past one.
-/

namespace ClassAtlas.Manifest

/-! ## Escaped characters -/

theorem value?_of_isHexDigit {n : Nat} {c : Char} (h : IsHexDigit n c) : Hex.value? c = some n := by
  have hall : ∀ m < 16, Hex.value? (Hex.lower m) = some m ∧ Hex.value? (Hex.upper m) = some m := by
    decide
  obtain ⟨hlt, rfl | rfl⟩ := h
  · exact (hall n hlt).1
  · exact (hall n hlt).2

theorem quad?_append {n : Nat} {digits : List Char} (h : IsQuad n digits) (rest : List Char) :
    quad? (digits ++ rest) = some (n, rest) := by
  obtain ⟨h₃, h₂, h₁, h₀⟩ := h
  simp [quad?, Hex.number?, value?_of_isHexDigit h₃, value?_of_isHexDigit h₂,
    value?_of_isHexDigit h₁, value?_of_isHexDigit h₀]

theorem scanQuad_append {n : Nat} {digits : List Char} (h : IsQuad n digits) (offset : Nat)
    (rest : List Char) : scanQuad offset (digits ++ rest) = .ok ⟨n, offset + 4, rest⟩ := by
  rw [scanQuad, quad?_append h]

theorem scanEscape_short {letter c : Char} (h : (letter, c) ∈ shortEscapes) (offset : Nat)
    (rest : List Char) : scanEscape offset (letter :: rest) = .ok ⟨c, offset + 1, rest⟩ := by
  simp only [shortEscapes, List.mem_cons, Prod.mk.injEq, List.not_mem_nil, or_false] at h
  rcases h with ⟨rfl, rfl⟩ | ⟨rfl, rfl⟩ | ⟨rfl, rfl⟩ | ⟨rfl, rfl⟩ | ⟨rfl, rfl⟩ | ⟨rfl, rfl⟩ |
    ⟨rfl, rfl⟩ | ⟨rfl, rfl⟩ <;> rfl

/-- No character is a surrogate. -/
theorem not_surrogate (c : Char) :
    isLowSurrogate c.toNat = false ∧ isHighSurrogate c.toNat = false := by
  have hvalid := c.valid
  simp only [UInt32.isValidChar, Nat.isValidChar] at hvalid
  simp only [isLowSurrogate, isHighSurrogate, Char.toNat, Bool.and_eq_false_iff,
    decide_eq_false_iff_not]
  omega

theorem scanEscape_unit {c : Char} {digits : List Char} (h : IsQuad c.toNat digits) (offset : Nat)
    (rest : List Char) :
    scanEscape offset ('u' :: (digits ++ rest)) = .ok ⟨c, offset + 5, rest⟩ := by
  obtain ⟨hlow, hhigh⟩ := not_surrogate c
  simp [scanEscape, scanQuad_append h, bind, Except.bind, hlow, hhigh]

theorem scanEscape_pair {c : Char} {high low : List Char} (hc : 0x10000 ≤ c.toNat)
    (hhigh : IsQuad (0xD800 + (c.toNat - 0x10000) / 0x400) high)
    (hlow : IsQuad (0xDC00 + (c.toNat - 0x10000) % 0x400) low) (offset : Nat)
    (rest : List Char) :
    scanEscape offset ('u' :: (high ++ '\\' :: 'u' :: (low ++ rest)))
      = .ok ⟨c, offset + 11, rest⟩ := by
  have hbound : c.toNat < 0x110000 := by
    have hvalid := c.valid
    simp only [UInt32.isValidChar, Nat.isValidChar] at hvalid
    simp only [Char.toNat]
    omega
  have hfirst : isLowSurrogate (0xD800 + (c.toNat - 0x10000) / 0x400) = false
      ∧ isHighSurrogate (0xD800 + (c.toNat - 0x10000) / 0x400) = true := by
    simp only [isLowSurrogate, isHighSurrogate, Bool.and_eq_false_iff, Bool.and_eq_true,
      decide_eq_false_iff_not, decide_eq_true_eq]
    omega
  have hsecond : isLowSurrogate (0xDC00 + (c.toNat - 0x10000) % 0x400) = true := by
    simp only [isLowSurrogate, Bool.and_eq_true, decide_eq_true_eq]
    omega
  have hpaired : pairedChar (0xD800 + (c.toNat - 0x10000) / 0x400)
      (0xDC00 + (c.toNat - 0x10000) % 0x400) = c := by
    have hvalue : (0xD800 + (c.toNat - 0x10000) / 0x400 - 0xD800) * 0x400
        + (0xDC00 + (c.toNat - 0x10000) % 0x400 - 0xDC00) + 0x10000 = c.toNat := by
      omega
    rw [pairedChar, hvalue, Char.ofNat_toNat]
  simp only [scanEscape, scanQuad_append hhigh, bind, Except.bind, hfirst.1, hfirst.2,
    Bool.false_eq_true, if_false, if_true, scanLowSurrogate, scanQuad_append hlow, hsecond,
    hpaired]

/-! ## Quoted texts -/

theorem scanText_quote (offset : Nat) (rest : List Char) :
    scanText offset ('\"' :: rest) = .ok ⟨[], offset + 1, rest⟩ := by
  rw [scanText]

theorem scanText_escape {offset : Nat} {rest : List Char} {e : Scan Char} {t : Scan (List Char)}
    (he : scanEscape (offset + 1) rest = .ok e) (ht : scanText e.stop e.rest = .ok t) :
    scanText offset ('\\' :: rest) = .ok { t with value := e.value :: t.value } := by
  rw [scanText]
  split
  · next f hf => rw [he] at hf; cases hf
  · next e' he' =>
    rw [he] at he'
    cases he'
    rw [ht]

theorem scanText_raw {offset : Nat} {c : Char} {rest : List Char} {t : Scan (List Char)}
    (hcontrol : 0x20 ≤ c.toNat) (hquote : c ≠ '\"') (hslash : c ≠ '\\')
    (ht : scanText (offset + c.utf8Size) rest = .ok t) :
    scanText offset (c :: rest) = .ok { t with value := c :: t.value } := by
  rw [scanText, if_neg (Nat.not_lt.2 hcontrol), ht]
  · exact hquote
  · exact hslash

theorem scanText_spelling {cs spelled : List Char} (h : TextSpelling cs spelled) (offset : Nat)
    (rest : List Char) : ∃ stop, scanText offset (spelled ++ '\"' :: rest) = .ok ⟨cs, stop, rest⟩ := by
  induction h generalizing offset with
  | nil => exact ⟨offset + 1, scanText_quote offset rest⟩
  | @cons c cs spelled more hc _ ih =>
    rw [List.append_assoc]
    -- the ways to write one character take 1 to 4, 2, 6 and 12 bytes
    cases hc with
    | raw hcontrol hquote hslash =>
      obtain ⟨stop, hstop⟩ := ih (offset + c.utf8Size)
      exact ⟨stop, scanText_raw hcontrol hquote hslash hstop⟩
    | short hletter =>
      obtain ⟨stop, hstop⟩ := ih (offset + 2)
      exact ⟨stop, scanText_escape (scanEscape_short hletter (offset + 1) _) hstop⟩
    | unit hdigits =>
      obtain ⟨stop, hstop⟩ := ih (offset + 6)
      exact ⟨stop, scanText_escape (scanEscape_unit hdigits (offset + 1) _) hstop⟩
    | @pair high low hc hhigh hlow =>
      obtain ⟨stop, hstop⟩ := ih (offset + 12)
      have hescape := scanEscape_pair hc hhigh hlow (offset + 1) (more ++ '\"' :: rest)
      refine ⟨stop, ?_⟩
      have htext := scanText_escape hescape hstop
      simpa using htext

/-! ## Tokens -/

theorem scanWord_append (offset : Nat) (word rest : List Char) :
    scanWord offset word (word ++ rest) = .ok ⟨(), offset + word.length, rest⟩ := by
  induction word generalizing offset with
  | nil => rfl
  | cons c word ih =>
    rw [List.cons_append, scanWord, if_pos rfl, ih, List.length_cons]
    simp only [Nat.add_assoc, Nat.add_comm 1]

/-- The token of a lexeme that is no number. -/
def Lexeme.token? : Lexeme → Option Token
  | .mark m => some (.mark m)
  | .null => some .null
  | .bool b => some (.bool b)
  | .number _ => none
  | .text s => some (.text s)

theorem scanToken?_word {c : Char} {word : List Char} {token : Token} (hmark : mark? c = none)
    (hword : word? c = some (word, token)) (offset : Nat) (rest : List Char) :
    scanToken? offset c (word ++ rest)
      = some (.ok ⟨token, offset + 1 + word.length, rest⟩) := by
  simp only [scanToken?, hmark, hword, scanWord_append]
  rfl

/-- A lexeme other than a number is scanned to its end. -/
theorem scanToken?_append {l : Lexeme} {spelled : List Char} (h : LexemeSpelling l spelled)
    {token : Token} (htoken : l.token? = some token) (offset : Nat) (rest : List Char) :
    ∃ c cs stop, spelled = c :: cs ∧ isBlank c = false
      ∧ scanToken? offset c (cs ++ rest) = some (.ok ⟨token, stop, rest⟩) := by
  cases h with
  | mark m =>
    cases htoken
    exact ⟨m.char, [], offset + 1, rfl, by cases m <;> rfl, by cases m <;> rfl⟩
  | null =>
    cases htoken
    exact ⟨'n', ['u', 'l', 'l'], _, rfl, rfl, scanToken?_word rfl rfl offset rest⟩
  | true =>
    cases htoken
    exact ⟨'t', ['r', 'u', 'e'], _, rfl, rfl, scanToken?_word rfl rfl offset rest⟩
  | false =>
    cases htoken
    exact ⟨'f', ['a', 'l', 's', 'e'], _, rfl, rfl, scanToken?_word rfl rfl offset rest⟩
  | number n => cases htoken
  | @text s spelled htext =>
    cases htoken
    obtain ⟨stop, hstop⟩ := scanText_spelling htext (offset + 1) rest
    refine ⟨'\"', spelled ++ ['\"'], stop, rfl, rfl, ?_⟩
    have hscan : scanToken? offset '\"' (spelled ++ ['\"'] ++ rest)
        = some ((scanText (offset + 1) (spelled ++ ['\"'] ++ rest)).map fun t =>
            ⟨.text (String.ofList t.value), t.stop, t.rest⟩) := rfl
    rw [hscan, List.append_assoc, List.singleton_append, hstop]
    simp [Except.map]

/-- Where a number starts, a number is scanned or found at fault. -/
theorem scanToken?_number {c : Char} (h : c = '-' ∨ c.isDigit) (offset : Nat)
    (rest : List Char) :
    isBlank c = false ∧ c ≠ '\"'
      ∧ ((∃ fault, scanToken? offset c rest = some (.error fault))
        ∨ ∃ n stop after, scanToken? offset c rest = some (.ok ⟨.number n, stop, after⟩)) := by
  -- the characters that start other tokens are no digits
  have hother : ∀ d ∈ ['\x7b', '\x7d', '[', ']', ',', ':', 'n', 't', 'f', '\"', ' ', '\t', '\n', '\r'],
      d ≠ '-' ∧ d.isDigit = false := List.all_iff_forall_prop.1 (by decide)
  have hne : ∀ d ∈ ['\x7b', '\x7d', '[', ']', ',', ':', 'n', 't', 'f', '\"', ' ', '\t', '\n', '\r'],
      c ≠ d := by
    rintro d hd rfl
    obtain ⟨hminus, hdigit⟩ := hother c hd
    rcases h with h | h
    · exact hminus h
    · rw [hdigit] at h
      cases h
  simp only [List.forall_mem_cons] at hne
  obtain ⟨h₁, h₂, h₃, h₄, h₅, h₆, h₇, h₈, h₉, hquote, hblank, htab, hfeed, hreturn, _⟩ := hne
  have hmark : mark? c = none := by
    simp only [mark?, h₁, h₂, h₃, h₄, h₅, h₆, if_false]
  have hword : word? c = none := by
    simp only [word?, h₇, h₈, h₉, if_false]
  refine ⟨?_, hquote, ?_⟩
  · simp only [isBlank, beq_false_of_ne hblank, beq_false_of_ne htab, beq_false_of_ne hfeed,
      beq_false_of_ne hreturn, Bool.or_false]
  simp only [scanToken?, hmark, hword, if_neg hquote]
  by_cases hminus : c = '-'
  · rw [if_pos hminus]
    cases scanNumber true (offset + 1) rest with
    | error fault => exact .inl ⟨fault, rfl⟩
    | ok s => exact .inr ⟨s.value, s.stop, s.rest, rfl⟩
  · rw [if_neg hminus, if_pos (h.resolve_left hminus)]
    cases scanNumber false offset (c :: rest) with
    | error fault => exact .inl ⟨fault, rfl⟩
    | ok s => exact .inr ⟨s.value, s.stop, s.rest, rfl⟩

/-! ## Tapes -/

namespace Tape

theorem ofChars_blank {c : Char} (h : isBlank c) (offset : Nat) (rest : List Char) :
    ofChars offset (c :: rest) = ofChars (offset + 1) rest := by
  rw [ofChars, if_pos h]

theorem ofChars_token {offset : Nat} {c : Char} {rest : List Char} {s : Scan Token}
    (hblank : isBlank c = false) (h : scanToken? offset c rest = some (.ok s)) :
    ofChars offset (c :: rest) = .token offset s.stop s.value (ofChars s.stop s.rest) := by
  rw [ofChars, if_neg (by simp [hblank])]
  split
  · next hs => rw [h] at hs; cases hs
  · next hs => rw [h] at hs; cases hs
  · next hs => rw [h] at hs; cases hs; rfl

theorem ofChars_broken {offset : Nat} {c : Char} {rest : List Char} {fault : Fault}
    (hblank : isBlank c = false) (h : scanToken? offset c rest = some (.error fault)) :
    ofChars offset (c :: rest) = .broken offset (c == '\"') fault := by
  rw [ofChars, if_neg (by simp [hblank])]
  split
  · next hs => rw [h] at hs; cases hs
  · next hs => rw [h] at hs; cases hs; rfl
  · next hs => rw [h] at hs; cases hs

theorem ofChars_gap {gap : List Char} (h : IsGap gap) (offset : Nat) (rest : List Char) :
    ofChars offset (gap ++ rest) = ofChars (offset + gap.length) rest := by
  induction gap generalizing offset with
  | nil => rfl
  | cons c gap ih =>
    have hblanks : ∀ d ∈ [' ', '\t', '\r', '\n'], isBlank d :=
      List.all_iff_forall_prop.1 (by decide)
    rw [List.cons_append, ofChars_blank (hblanks c (h c List.mem_cons_self)),
      ih fun d hd => h d (List.mem_cons_of_mem _ hd), List.length_cons]
    congr 1
    omega

/-- The lexemes stand at the front of the tape, and `rest` after them.  After a
    number anything may stand. -/
inductive Shows : List Lexeme → Tape → Tape → Prop where
  | nil {rest : Tape} : Shows [] rest rest
  | token {l : Lexeme} {ls : List Lexeme} {start stop : Nat} {value : Token} {t rest : Tape} :
      l.token? = some value → Shows ls t rest → Shows (l :: ls) (.token start stop value t) rest
  | number {n : Numeral} {ls : List Lexeme} {start stop : Nat} {m : Number} {t rest : Tape} :
      Shows (.number n :: ls) (.token start stop (.number m) t) rest
  | broken {n : Numeral} {ls : List Lexeme} {start : Nat} {fault : Fault} {rest : Tape} :
      Shows (.number n :: ls) (.broken start false fault) rest

/-- Every spelling of lexemes shows them, up to the end of the text. -/
theorem shows_ofChars {ls : List Lexeme} {cs : List Char} (h : Spelling ls cs) (offset : Nat) :
    ∃ stop, Shows ls (ofChars offset cs) (.finish stop) := by
  induction h generalizing offset with
  | @nil gap hgap =>
    refine ⟨offset + gap.length, ?_⟩
    have htape := ofChars_gap hgap offset []
    rw [List.append_nil, ofChars] at htape
    rw [htape]
    exact .nil
  | @cons l ls gap spelled rest hgap hl _ ih =>
    rw [ofChars_gap hgap]
    cases htoken : l.token? with
    | some token =>
      obtain ⟨c, cs, stop, rfl, hblank, hscan⟩ :=
        scanToken?_append hl htoken (offset + gap.length) rest
      obtain ⟨finish, hfinish⟩ := ih stop
      refine ⟨finish, ?_⟩
      rw [List.cons_append, ofChars_token hblank hscan]
      exact .token htoken hfinish
    | none =>
      -- only a number has no token of its own
      cases hl with
      | number n =>
        obtain ⟨c, cs, hchars, hstart⟩ := n.exists_chars_eq
        obtain ⟨hblank, hquote, hscan⟩ :=
          scanToken?_number hstart (offset + gap.length) (cs ++ rest)
        refine ⟨0, ?_⟩
        rw [hchars, List.cons_append]
        rcases hscan with ⟨fault, hfault⟩ | ⟨m, stop, after, hm⟩
        · rw [ofChars_broken hblank hfault, beq_false_of_ne hquote]
          exact .broken
        · rw [ofChars_token hblank hm]
          exact .number
      | mark | null | true | false | text => cases htoken

end Tape

end ClassAtlas.Manifest
