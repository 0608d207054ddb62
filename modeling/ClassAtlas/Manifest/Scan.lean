import ClassAtlas.Manifest.Fault

/-! # Scanning words, numbers and quoted texts

    The parts of a manifest text that are longer than one character.  Each
    scanner starts after `offset` bytes of the text, takes what belongs to its
    part and hands on the characters after it; it stops at the first character
    that the part cannot hold.
-/

namespace ClassAtlas.Manifest

/-- A part that was scanned, the number of bytes before its end, and the
    characters after it. -/
structure Scan (α : Type) where
  value : α
  stop : Nat
  rest : List Char

/-- Stops a scan or a reading. -/
def fail {α : Type} (cause : Cause) (offset : Nat) : Except Fault α := .error ⟨cause, offset⟩

/-! ## Words -/

/-- The rest of a word whose first letter is known. -/
def scanWord (offset : Nat) : List Char → List Char → Except Fault (Scan Unit)
  | [], cs => .ok ⟨(), offset, cs⟩
  | _ :: _, [] => fail .endOfValue offset
  | w :: word, c :: cs =>
    if c = w then scanWord (offset + 1) word cs else fail .expectedWord (offset + 1)

theorem length_scanWord {offset : Nat} {word cs : List Char} {s : Scan Unit}
    (h : scanWord offset word cs = .ok s) : s.rest.length ≤ cs.length := by
  induction word generalizing offset cs with
  | nil => cases h; exact Nat.le_refl _
  | cons w word ih =>
    cases cs with
    | nil => cases h
    | cons c cs =>
      simp only [scanWord] at h
      split at h
      · exact Nat.le_succ_of_le (ih h)
      · cases h

/-! ## Numbers -/

/-- A decimal significand that is kept below 2 ^ 64, and the digits that no
    longer fit. -/
def absorb (significand : Nat) : List Char → Nat × List Char
  | [] => (significand, [])
  | d :: ds =>
    let next := significand * 10 + (d.toNat - '0'.toNat)
    if next < Nat.pow 2 64 then absorb next ds else (significand, d :: ds)

/-- The greatest power of ten that is a floating-point number. -/
def greatestPower : Nat := 308

/-- `size` divided by the power of ten, in steps of at most `greatestPower`,
    each of them rounded. -/
def divideByPower (size : Binary64) (power : Nat) : Option Binary64 :=
  if size.mantissa = 0 then some size
  else if power ≤ greatestPower then do size.div? (← Binary64.ofNat? (Nat.pow 10 power))
  else do
    let smaller ← size.div? (← Binary64.ofNat? (Nat.pow 10 greatestPower))
    divideByPower smaller (power - greatestPower)
  termination_by power
  decreasing_by simp only [greatestPower] at *; omega

/-- `significand * 10 ^ exponent`, rounded at every step, if it is in range. -/
def realSize (significand : Nat) (exponent : Int) : Option Binary64 := do
  let size ← Binary64.ofNat? significand
  if exponent < 0 then divideByPower size exponent.natAbs
  else if exponent.toNat ≤ greatestPower then
    size.mul? (← Binary64.ofNat? (Nat.pow 10 exponent.toNat))
  else if size.mantissa = 0 then some size
  else none

/-- The digits that open a list of characters. -/
def takeDigits (cs : List Char) : List Char := cs.takeWhile Char.isDigit

/-- The characters after them. -/
def dropDigits (cs : List Char) : List Char := cs.dropWhile Char.isDigit

/-- The greatest exponent that is read to its end. -/
def greatestExponent : Nat := Nat.pow 2 31 - 1

/-- The exponent that digits write, or the number of digits that are enough to
    pass `greatestExponent`. -/
def exponentOf (value : Nat) (taken : Nat) : List Char → Except Nat Nat
  | [] => .ok value
  | d :: ds =>
    let next := value * 10 + (d.toNat - '0'.toNat)
    if next ≤ greatestExponent then exponentOf next (taken + 1) ds else .error (taken + 1)

/-- A number without its exponent: `significand * 10 ^ exponent`. -/
structure Fraction where
  significand : Nat
  exponent : Int
  /-- Written with digits only, and all of them in the significand. -/
  isWhole : Bool

/-- The number in `fraction`, without an exponent of its own. -/
def finishNumber (isNegative : Bool) (fraction : Fraction) (offset : Nat) (cs : List Char) :
    Except Fault (Scan Number) :=
  let significand := fraction.significand
  if fraction.isWhole && ! isNegative then .ok ⟨.whole significand, offset, cs⟩
  else if fraction.isWhole && 0 < significand && significand ≤ Nat.pow 2 63 then
    .ok ⟨.whole (-significand), offset, cs⟩
  else
    match realSize significand fraction.exponent with
    | some size => .ok ⟨.real isNegative size, offset, cs⟩
    | none => fail .numberOutOfRange offset

/-- The exponent after the letter that introduces it. -/
def scanExponent (isNegative : Bool) (fraction : Fraction) (offset : Nat) (cs : List Char) :
    Except Fault (Scan Number) :=
  let (isDown, offset, cs) :=
    match cs with
    | '+' :: cs => (false, offset + 1, cs)
    | '-' :: cs => (true, offset + 1, cs)
    | cs => (false, offset, cs)
  let digits := takeDigits cs
  let rest := dropDigits cs
  if digits.isEmpty then
    if rest.isEmpty then fail .endOfValue offset else fail .invalidNumber (offset + 1)
  else
    let stop := offset + digits.length
    match exponentOf 0 0 digits with
    | .ok value =>
      let exponent := fraction.exponent + (if isDown then -(value : Int) else value)
      finishNumber isNegative { fraction with exponent, isWhole := false } stop rest
    | .error taken =>
      -- far out of range, or zero
      if fraction.significand ≠ 0 ∧ ! isDown then fail .numberOutOfRange (offset + taken)
      else .ok ⟨.real isNegative .zero, stop, rest⟩

/-- What may follow the digits before and after the point. -/
def scanAfterDigits (isNegative : Bool) (fraction : Fraction) (offset : Nat) (cs : List Char) :
    Except Fault (Scan Number) :=
  match cs with
  | 'e' :: cs => scanExponent isNegative fraction (offset + 1) cs
  | 'E' :: cs => scanExponent isNegative fraction (offset + 1) cs
  | cs => finishNumber isNegative fraction offset cs

/-- What may follow the digits before the point. -/
def scanAfterWhole (isNegative : Bool) (fraction : Fraction) (offset : Nat) (cs : List Char) :
    Except Fault (Scan Number) :=
  match cs with
  | '.' :: cs =>
    let digits := takeDigits cs
    let rest := dropDigits cs
    let offset := offset + 1
    if digits.isEmpty then
      if rest.isEmpty then fail .endOfValue offset else fail .invalidNumber (offset + 1)
    else
      let (significand, lost) := absorb fraction.significand digits
      let exponent := fraction.exponent - (digits.length - lost.length : Nat)
      scanAfterDigits isNegative ⟨significand, exponent, false⟩ (offset + digits.length) rest
  | cs => scanAfterDigits isNegative fraction offset cs

/-- A number whose minus sign, if it has one, has been taken. -/
def scanNumber (isNegative : Bool) (offset : Nat) (cs : List Char) :
    Except Fault (Scan Number) :=
  let digits := takeDigits cs
  let rest := dropDigits cs
  match digits with
  | [] => if rest.isEmpty then fail .endOfValue offset else fail .invalidNumber (offset + 1)
  | '0' :: _ :: _ => fail .invalidNumber (offset + 2)
  | digits =>
    let (significand, lost) := absorb 0 digits
    scanAfterWhole isNegative ⟨significand, lost.length, lost.isEmpty⟩ (offset + digits.length) rest

theorem length_dropDigits (cs : List Char) : (dropDigits cs).length ≤ cs.length :=
  (List.dropWhile_suffix _).length_le

theorem length_finishNumber {isNegative : Bool} {fraction : Fraction} {offset : Nat}
    {cs : List Char} {s : Scan Number} (h : finishNumber isNegative fraction offset cs = .ok s) :
    s.rest = cs := by
  simp only [finishNumber] at h
  split at h
  · cases h; rfl
  · split at h
    · cases h; rfl
    · split at h <;> cases h
      rfl

theorem length_scanExponent {isNegative : Bool} {fraction : Fraction} {offset : Nat}
    {cs : List Char} {s : Scan Number} (h : scanExponent isNegative fraction offset cs = .ok s) :
    s.rest.length ≤ cs.length := by
  simp only [scanExponent] at h
  generalize hp : (match cs with
    | '+' :: cs => (false, offset + 1, cs)
    | '-' :: cs => (true, offset + 1, cs)
    | cs => (false, offset, cs)) = p at h
  have hle : p.2.2.length ≤ cs.length := by
    subst hp; split <;> simp
  refine Nat.le_trans ?_ (Nat.le_trans (length_dropDigits p.2.2) hle)
  split at h
  · split at h <;> cases h
  · split at h
    · exact Nat.le_of_eq (congrArg _ (length_finishNumber h))
    · split at h <;> cases h
      exact Nat.le_refl _

theorem length_scanAfterDigits {isNegative : Bool} {fraction : Fraction} {offset : Nat}
    {cs : List Char} {s : Scan Number}
    (h : scanAfterDigits isNegative fraction offset cs = .ok s) : s.rest.length ≤ cs.length := by
  unfold scanAfterDigits at h
  split at h
  · exact Nat.le_succ_of_le (length_scanExponent h)
  · exact Nat.le_succ_of_le (length_scanExponent h)
  · exact Nat.le_of_eq (congrArg _ (length_finishNumber h))

theorem length_scanAfterWhole {isNegative : Bool} {fraction : Fraction} {offset : Nat}
    {cs : List Char} {s : Scan Number}
    (h : scanAfterWhole isNegative fraction offset cs = .ok s) : s.rest.length ≤ cs.length := by
  unfold scanAfterWhole at h
  split at h
  · rename_i cs
    simp only at h
    split at h
    · split at h <;> cases h
    · exact Nat.le_succ_of_le (Nat.le_trans (length_scanAfterDigits h) (length_dropDigits cs))
  · exact length_scanAfterDigits h

theorem length_scanNumber {isNegative : Bool} {offset : Nat} {cs : List Char} {s : Scan Number}
    (h : scanNumber isNegative offset cs = .ok s) : s.rest.length < cs.length := by
  simp only [scanNumber] at h
  split at h
  · split at h <;> cases h
  · cases h
  · rename_i hne _
    refine Nat.lt_of_le_of_lt (length_scanAfterWhole h) ?_
    cases cs with
    | nil => exact absurd rfl hne
    | cons c cs =>
      by_cases hc : c.isDigit
      · simp only [dropDigits, List.dropWhile_cons, hc, if_true]
        exact Nat.lt_succ_of_le (length_dropDigits cs)
      · exact absurd (by simp [takeDigits, hc]) hne

/-! ## Quoted texts -/

/-- The character that a letter after a backslash stands for. -/
def escaped? (c : Char) : Option Char :=
  if c = '\"' ∨ c = '\\' ∨ c = '/' then some c
  else if c = 'b' then some '\x08'
  else if c = 'f' then some '\x0c'
  else if c = 'n' then some '\n'
  else if c = 'r' then some '\r'
  else if c = 't' then some '\t'
  else none

/-- Four hexadecimal digits and what follows them. -/
def quad? : List Char → Option (Nat × List Char)
  | a :: b :: c :: d :: cs => (Hex.number? [a, b, c, d]).map (·, cs)
  | _ => none

/-- Four hexadecimal digits.  Four bytes are taken whatever they hold. -/
def scanQuad (offset : Nat) (cs : List Char) : Except Fault (Scan Nat) :=
  match quad? cs with
  | some (value, rest) => .ok ⟨value, offset + 4, rest⟩
  | none =>
    if 4 ≤ Utf8.size cs then fail .invalidEscape (offset + 4)
    else fail .endOfText (offset + Utf8.size cs)

def isHighSurrogate (n : Nat) : Bool := 0xD800 ≤ n && n ≤ 0xDBFF

def isLowSurrogate (n : Nat) : Bool := 0xDC00 ≤ n && n ≤ 0xDFFF

/-- The character that a surrogate pair stands for. -/
def pairedChar (high low : Nat) : Char :=
  Char.ofNat ((high - 0xD800) * 0x400 + (low - 0xDC00) + 0x10000)

/-- The second half of a surrogate pair. -/
def scanLowSurrogate (high offset : Nat) : List Char → Except Fault (Scan Char)
  | [] => fail .endOfText offset
  | ['\\'] => fail .endOfText (offset + 1)
  | '\\' :: 'u' :: cs => do
    let low ← scanQuad (offset + 2) cs
    if isLowSurrogate low.value then .ok ⟨pairedChar high low.value, low.stop, low.rest⟩
    else fail .loneSurrogate low.stop
  | '\\' :: _ :: _ => fail .unfinishedSurrogate (offset + 2)
  | _ :: _ => fail .unfinishedSurrogate (offset + 1)

/-- An escaped character, after its backslash. -/
def scanEscape (offset : Nat) : List Char → Except Fault (Scan Char)
  | [] => fail .endOfText offset
  | 'u' :: cs => do
    let unit ← scanQuad (offset + 1) cs
    if isLowSurrogate unit.value then fail .loneSurrogate unit.stop
    else if isHighSurrogate unit.value then scanLowSurrogate unit.value unit.stop unit.rest
    else .ok ⟨Char.ofNat unit.value, unit.stop, unit.rest⟩
  | c :: cs =>
    match escaped? c with
    | some d => .ok ⟨d, offset + 1, cs⟩
    | none => fail .invalidEscape (offset + 1)

theorem length_quad? {cs rest : List Char} {value : Nat} (h : quad? cs = some (value, rest)) :
    rest.length < cs.length := by
  unfold quad? at h
  split at h
  · obtain ⟨n, _, hn⟩ := Option.map_eq_some_iff.1 h
    cases hn
    simp only [List.length_cons]; omega
  · cases h

theorem length_scanQuad {offset : Nat} {cs : List Char} {s : Scan Nat}
    (h : scanQuad offset cs = .ok s) : s.rest.length < cs.length := by
  unfold scanQuad at h
  split at h
  · rename_i hq; cases h; exact length_quad? hq
  · split at h <;> cases h

theorem length_scanLowSurrogate {high offset : Nat} {cs : List Char} {s : Scan Char}
    (h : scanLowSurrogate high offset cs = .ok s) : s.rest.length < cs.length := by
  unfold scanLowSurrogate at h
  split at h
  · cases h
  · cases h
  · rename_i cs
    cases hq : scanQuad (offset + 2) cs with
    | error f => rw [hq] at h; cases h
    | ok low =>
      rw [hq] at h
      simp only [bind, Except.bind] at h
      have := length_scanQuad hq
      split at h
      · rw [← Except.ok.inj h]
        simp only [List.length_cons]; omega
      · cases h
  · cases h
  · cases h

theorem length_scanEscape {offset : Nat} {cs : List Char} {s : Scan Char}
    (h : scanEscape offset cs = .ok s) : s.rest.length < cs.length := by
  unfold scanEscape at h
  split at h
  · cases h
  · rename_i cs
    cases hq : scanQuad (offset + 1) cs with
    | error f => rw [hq] at h; cases h
    | ok unit =>
      rw [hq] at h
      simp only [bind, Except.bind] at h
      have := length_scanQuad hq
      split at h
      · cases h
      · split at h
        · have := length_scanLowSurrogate h
          simp only [List.length_cons]; omega
        · rw [← Except.ok.inj h]
          simp only [List.length_cons]; omega
  · split at h <;> cases h
    exact Nat.lt_succ_self _

/-- A quoted text, after its opening quote. -/
def scanText (offset : Nat) (cs : List Char) : Except Fault (Scan (List Char)) :=
  match cs with
  | [] => fail .endOfText offset
  | '\"' :: rest => .ok ⟨[], offset + 1, rest⟩
  | '\\' :: rest =>
    match h : scanEscape (offset + 1) rest with
    | .error f => .error f
    | .ok e =>
      have := length_scanEscape h
      match scanText e.stop e.rest with
      | .error f => .error f
      | .ok t => .ok { t with value := e.value :: t.value }
  | c :: rest =>
    if c.toNat < 0x20 then fail .controlCharacter (offset + 1)
    else
      match scanText (offset + c.utf8Size) rest with
      | .error f => .error f
      | .ok t => .ok { t with value := c :: t.value }
  termination_by cs.length

theorem length_scanText {offset : Nat} {cs : List Char} {s : Scan (List Char)}
    (h : scanText offset cs = .ok s) : s.rest.length < cs.length := by
  fun_induction scanText offset cs generalizing s with
  | case1 => cases h
  | case2 => cases h; exact Nat.lt_succ_self _
  | case3 => cases h
  | case4 => cases h
  | case5 offset rest e he hlt t ht ih =>
    cases h
    have := ih ht
    simp only [List.length_cons]; omega
  | case6 => cases h
  | case7 => cases h
  | case8 offset c rest _ _ _ t ht ih =>
    cases h
    have := ih ht
    simp only [List.length_cons]; omega

end ClassAtlas.Manifest
