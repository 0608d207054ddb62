import Mathlib.Data.List.TakeWhile
import ClassAtlas.Proofs.Manifest.Sharing

/-! # Numbers of texts that begin alike

    A number is a run of digits, maybe another behind a point, and maybe another
    behind an `e`.  Digits end where another character is seen, so a number ends
    at the same place in both texts if it ends before the place up to which they
    are alike.  Two faults are found before the digits end: a second digit behind a
    zero, and an exponent that is out of range.
-/

namespace ClassAtlas.Manifest

variable {place offset : Nat} {c : Char} {cs cs' : List Char}

/-! ## Digits -/

theorem utf8Size_of_isDigit (h : c.isDigit) : c.utf8Size = 1 := by
  rw [Char.utf8Size_eq_one_iff]
  simp only [Char.isDigit, Bool.and_eq_true, decide_eq_true_eq] at h
  exact UInt32.le_trans h.2 (by decide)

theorem takeDigits_append_dropDigits (cs : List Char) : takeDigits cs ++ dropDigits cs = cs :=
  List.takeWhile_append_dropWhile

theorem isDigit_of_mem_takeDigits (h : c ∈ takeDigits cs) : c.isDigit := List.mem_takeWhile_imp h

theorem length_takeDigits_le (cs : List Char) :
    (takeDigits cs).length + Utf8.size (dropDigits cs) ≤ Utf8.size cs := by
  have hsize := Utf8.size_append (takeDigits cs) (dropDigits cs)
  rw [takeDigits_append_dropDigits] at hsize
  have hlength := Utf8.length_le_size (takeDigits cs)
  omega

/-- Digits in front of one text are taken of the other too, maybe with more. -/
theorem Shares.append_digits {digits rest : List Char}
    (h : Shares place offset (digits ++ rest) cs') (hplace : offset + digits.length ≤ place + 1)
    (hdigits : ∀ c ∈ digits, c.isDigit) :
    ∃ rest', takeDigits cs' = digits ++ takeDigits rest' ∧ dropDigits cs' = dropDigits rest'
      ∧ Shares place (offset + digits.length) rest rest' := by
  obtain ⟨rest', rfl, hshares⟩ :=
    h.append_narrow hplace fun c hc => utf8Size_of_isDigit (hdigits c hc)
  exact ⟨rest', List.takeWhile_append_of_pos hdigits, List.dropWhile_append_of_pos hdigits, hshares⟩

/-- Digits that end before the place are the same, and end there. -/
theorem Shares.digits (h : Shares place offset cs cs')
    (hplace : offset + (takeDigits cs).length ≤ place) :
    takeDigits cs' = takeDigits cs
      ∧ Shares place (offset + (takeDigits cs).length) (dropDigits cs) (dropDigits cs') := by
  rw [← takeDigits_append_dropDigits cs] at h
  obtain ⟨rest', htake, hdrop, hshares⟩ :=
    h.append_digits (by omega) fun c hc => isDigit_of_mem_takeDigits hc
  -- no digit comes next in either text
  have hnone : takeDigits rest' = [] ∧ dropDigits rest' = rest' := by
    cases hrest : dropDigits cs with
    | nil =>
      rw [hrest] at hshares
      exact absurd hshares.lt_of_nil (by omega)
    | cons c rest =>
      have hc : c.isDigit = false := by
        have hhead := List.head?_dropWhile_not Char.isDigit cs
        rw [← dropDigits, hrest] at hhead
        exact hhead
      rw [hrest] at hshares
      obtain ⟨c', rest'', rfl, hcase⟩ := hshares.uncons hplace
      have hc' : c'.isDigit = false := by
        rcases hcase with ⟨rfl, -⟩ | ⟨-, hwide, -⟩
        · exact hc
        · rw [Bool.eq_false_iff]
          intro hdigit
          exact hwide.ne (utf8Size_of_isDigit hdigit) rfl
      simp [takeDigits, dropDigits, hc']
  rw [htake, hdrop, hnone.1, hnone.2, List.append_nil]
  exact ⟨rfl, hshares⟩

/-- Digits that have to be there, and what is made of them and of what follows. -/
def scanDigits (offset : Nat) (go : List Char → List Char → Except Fault (Scan Number))
    (cs : List Char) : Except Fault (Scan Number) :=
  if (takeDigits cs).isEmpty then
    if (dropDigits cs).isEmpty then fail .endOfValue offset else fail .invalidNumber (offset + 1)
  else go (takeDigits cs) (dropDigits cs)

/-- What is made of digits is reported at their end or behind it; or it is a fault
    of the digits before it, whatever more there are. -/
structure GoesOn (place offset : Nat) (go : List Char → List Char → Except Fault (Scan Number)) :
    Prop where
  within : ∀ digits rest, Within offset (digits ++ rest) (go digits rest)
  carries : ∀ digits rest rest', Shares place (offset + digits.length) rest rest' →
    Carries place (go digits rest) (go digits rest')
  stop : ∀ digits rest s, go digits rest = .ok s → offset + digits.length ≤ s.stop
  early : ∀ digits rest fault, go digits rest = .error fault →
    offset + digits.length ≤ fault.offset ∨ offset < fault.offset
      ∧ ∀ more rest', go (digits.take (fault.offset - offset) ++ more) rest' = .error fault

theorem GoesOn.within_scanDigits {go : List Char → List Char → Except Fault (Scan Number)}
    (hgo : GoesOn place offset go) (cs : List Char) : Within offset cs (scanDigits offset go cs) := by
  unfold scanDigits
  split
  · split
    · exact within_fail_here
    · next hrest =>
      have hsize := length_takeDigits_le cs
      have hlength := Utf8.length_le_size (dropDigits cs)
      have hne := List.length_pos_iff.2 (mt List.isEmpty_iff.2 hrest)
      exact within_fail (by omega) (by omega)
  · have hwithin := hgo.within (takeDigits cs) (dropDigits cs)
    rwa [takeDigits_append_dropDigits] at hwithin

theorem GoesOn.carries_scanDigits {go : List Char → List Char → Except Fault (Scan Number)}
    (hgo : GoesOn place offset go) (h : Shares place offset cs cs') :
    Carries place (scanDigits offset go cs) (scanDigits offset go cs') := by
  by_cases hall : offset + (takeDigits cs).length ≤ place
  · obtain ⟨htake, hshares⟩ := h.digits hall
    obtain ⟨hrest, hrest'⟩ := hshares.isEmpty_eq hall
    unfold scanDigits
    rw [htake, hrest, hrest']
    split
    · exact carries_fail
    · exact hgo.carries _ _ _ hshares
  by_cases hoffset : offset ≤ place
  · -- the digits go on behind the place: before it there can only be a fault of theirs
    have hdigits : (takeDigits cs).isEmpty = false := by
      rw [Bool.eq_false_iff]
      intro hempty
      rw [List.isEmpty_iff.1 hempty] at hall
      exact hall hoffset
    have hscan : scanDigits offset go cs = go (takeDigits cs) (dropDigits cs) := by
      rw [scanDigits, hdigits]
      rfl
    rw [hscan]
    cases hresult : go (takeDigits cs) (dropDigits cs) with
    | ok s =>
      intro hplace
      have hle := hgo.stop _ _ _ hresult
      omega
    | error fault =>
      intro hplace
      rcases hgo.early _ _ _ hresult with hle | ⟨hlt, hearly⟩
      · omega
      · -- the digits up to the fault are shared, and they are enough for it
        have hsplit : (takeDigits cs).take (fault.offset - offset)
            ++ ((takeDigits cs).drop (fault.offset - offset) ++ dropDigits cs) = cs := by
          rw [← List.append_assoc, List.take_append_drop, takeDigits_append_dropDigits]
        have hlength :
            ((takeDigits cs).take (fault.offset - offset)).length = fault.offset - offset := by
          rw [List.length_take]
          omega
        rw [← hsplit] at h
        obtain ⟨rest', htake', -, -⟩ := h.append_digits (by omega) fun d hd =>
          isDigit_of_mem_takeDigits (List.mem_of_mem_take hd)
        have hdigits' : (takeDigits cs').isEmpty = false := by
          rw [Bool.eq_false_iff]
          intro hempty
          rw [List.isEmpty_iff.1 hempty] at htake'
          have hnil := (List.append_eq_nil_iff.1 htake'.symm).1
          rw [hnil, List.length_nil] at hlength
          omega
        rw [scanDigits, hdigits', htake']
        exact hearly _ _
  · exact .of_lt (hgo.within_scanDigits cs) (by omega)

section

variable (isNegative : Bool) (fraction : Fraction)

/-- What a number is without an exponent does not depend on what follows. -/
theorem finishNumber_cases (offset : Nat) :
    (∃ n, ∀ cs, finishNumber isNegative fraction offset cs = .ok ⟨n, offset, cs⟩)
      ∨ ∀ cs, finishNumber isNegative fraction offset cs = fail .numberOutOfRange offset := by
  unfold finishNumber
  simp only
  split
  · exact .inl ⟨_, fun _ => rfl⟩
  · split
    · exact .inl ⟨_, fun _ => rfl⟩
    · split
      · exact .inl ⟨_, fun _ => rfl⟩
      · exact .inr fun _ => rfl

theorem within_finishNumber (offset : Nat) (cs : List Char) :
    Within offset cs (finishNumber isNegative fraction offset cs) := by
  rcases finishNumber_cases isNegative fraction offset with ⟨n, hn⟩ | hfail
  · rw [hn]
    exact within_ok n
  · rw [hfail]
    exact within_fail_here

theorem carries_finishNumber (h : Shares place offset cs cs') :
    Carries place (finishNumber isNegative fraction offset cs)
      (finishNumber isNegative fraction offset cs') := by
  rcases finishNumber_cases isNegative fraction offset with ⟨n, hn⟩ | hfail
  · rw [hn, hn]
    exact carries_ok _ h
  · rw [hfail, hfail]
    exact carries_fail

/-- Digits are counted until they pass the greatest exponent. -/
theorem exponentOf_append (value taken : Nat) (front rest : List Char) :
    exponentOf value taken (front ++ rest)
      = (exponentOf value taken front).bind fun value =>
          exponentOf value (taken + front.length) rest := by
  induction front generalizing value taken with
  | nil => rfl
  | cons d front ih =>
    rw [List.cons_append, exponentOf, exponentOf]
    split
    · rw [ih, List.length_cons, Nat.add_assoc, Nat.add_comm 1]
    · rfl

theorem exponentOf_eq_error {value taken n : Nat} {digits : List Char}
    (h : exponentOf value taken digits = .error n) :
    taken < n ∧ n ≤ taken + digits.length
      ∧ exponentOf value taken (digits.take (n - taken)) = .error n := by
  induction digits generalizing value taken with
  | nil => cases h
  | cons d digits ih =>
    rw [exponentOf] at h
    split at h
    · next hnext =>
      obtain ⟨hlt, hlength, htake⟩ := ih h
      have hpos : n - taken = (n - (taken + 1)) + 1 := by omega
      refine ⟨by omega, by rw [List.length_cons]; omega, ?_⟩
      rw [hpos, List.take_succ_cons, exponentOf]
      rwa [if_pos hnext]
    · next hnext =>
      cases h
      refine ⟨by omega, by rw [List.length_cons]; omega, ?_⟩
      rw [Nat.add_sub_cancel_left, List.take_succ_cons, exponentOf]
      rw [if_neg hnext]

/-- A number with the digits of its exponent. -/
def finishPower (isDown : Bool) (offset : Nat) (digits rest : List Char) :
    Except Fault (Scan Number) :=
  match exponentOf 0 0 digits with
  | .ok value =>
    let exponent := fraction.exponent + (if isDown then -(value : Int) else value)
    finishNumber isNegative { fraction with exponent, isWhole := false } (offset + digits.length)
      rest
  | .error taken =>
    if fraction.significand ≠ 0 ∧ ! isDown then fail .numberOutOfRange (offset + taken)
    else .ok ⟨.real isNegative .zero, offset + digits.length, rest⟩

theorem goesOn_finishPower (isDown : Bool) (place offset : Nat) :
    GoesOn place offset (finishPower isNegative fraction isDown offset) where
  within digits rest := by
    unfold finishPower
    split
    · exact (within_finishNumber isNegative _ _ _).of_append
    · next taken herror =>
      split
      · have htaken := (exponentOf_eq_error herror).2.1
        have hsize := Utf8.size_append digits rest
        have hlength := Utf8.length_le_size digits
        exact within_fail (by omega) (by omega)
      · exact (within_ok _).of_append
  carries digits rest rest' h := by
    unfold finishPower
    split
    · exact carries_finishNumber isNegative _ h
    · split
      · exact carries_fail
      · exact carries_ok _ h
  stop digits rest s h := by
    unfold finishPower at h
    split at h
    · exact (within_finishNumber isNegative _ _ rest).le_stop h
    · split at h <;> cases h
      exact Nat.le_refl _
  early digits rest fault h := by
    unfold finishPower at h
    split at h
    · exact .inl ((within_finishNumber isNegative _ _ rest).le_offset h)
    · next taken herror =>
      split at h <;> cases h
      next hrange =>
      obtain ⟨hpos, -, htake⟩ := exponentOf_eq_error herror
      -- the exponent passes its bound with the digits taken so far, whatever more there are
      refine .inr ⟨Nat.lt_add_of_pos_right hpos, fun more rest' => ?_⟩
      have hsub : offset + taken - offset = taken - 0 := by omega
      have herror' :
          exponentOf 0 0 (digits.take (offset + taken - offset) ++ more) = .error taken := by
        rw [exponentOf_append, hsub, htake]
        rfl
      simp only [finishPower, herror', if_pos hrange]
      rfl

theorem scanExponent_unsigned (offset : Nat) (h : c ≠ '+') (h' : c ≠ '-') :
    scanExponent isNegative fraction offset (c :: cs)
      = scanDigits offset (finishPower isNegative fraction false offset) (c :: cs) := by
  rw [scanExponent]
  · rfl
  · exact fun _ heq => h (List.cons_eq_cons.1 heq).1
  · exact fun _ heq => h' (List.cons_eq_cons.1 heq).1

theorem within_scanExponent (offset : Nat) (cs : List Char) :
    Within offset cs (scanExponent isNegative fraction offset cs) := by
  have hpower : ∀ isDown offset cs, Within offset cs
      (scanDigits offset (finishPower isNegative fraction isDown offset) cs) := fun isDown offset =>
    (goesOn_finishPower isNegative fraction isDown 0 offset).within_scanDigits
  cases cs with
  | nil => exact hpower false offset []
  | cons c cs =>
    by_cases hplus : c = '+'
    · subst hplus
      exact (hpower false (offset + 1) cs).of_behind
    by_cases hminus : c = '-'
    · subst hminus
      exact (hpower true (offset + 1) cs).of_behind
    · rw [scanExponent_unsigned isNegative fraction offset hplus hminus]
      exact hpower false offset (c :: cs)

theorem carries_scanExponent (h : Shares place offset cs cs') :
    Carries place (scanExponent isNegative fraction offset cs)
      (scanExponent isNegative fraction offset cs') := by
  have hpower : ∀ isDown {offset cs cs'}, Shares place offset cs cs' → Carries place
      (scanDigits offset (finishPower isNegative fraction isDown offset) cs)
      (scanDigits offset (finishPower isNegative fraction isDown offset) cs') := fun isDown =>
    (goesOn_finishPower isNegative fraction isDown place _).carries_scanDigits
  refine carries_of_head _ h (within_scanExponent isNegative fraction offset cs) ?_ ?_
  · intro c rest rest' hrest
    by_cases hplus : c = '+'
    · subst hplus
      exact hpower false hrest
    by_cases hminus : c = '-'
    · subst hminus
      exact hpower true hrest
    · rw [scanExponent_unsigned isNegative fraction offset hplus hminus,
        scanExponent_unsigned isNegative fraction offset hplus hminus]
      exact hpower false (.cons c hrest)
  · intro c c' rest rest' hc hc' _ hshares
    rw [scanExponent_unsigned isNegative fraction offset (hc.ne rfl) (hc.ne rfl),
      scanExponent_unsigned isNegative fraction offset (hc'.ne rfl) (hc'.ne rfl)]
    exact hpower false hshares

theorem scanAfterDigits_other (offset : Nat) (h : c ≠ 'e') (h' : c ≠ 'E') (cs : List Char) :
    scanAfterDigits isNegative fraction offset (c :: cs)
      = finishNumber isNegative fraction offset (c :: cs) := by
  rw [scanAfterDigits]
  · exact fun _ heq => h (List.cons_eq_cons.1 heq).1
  · exact fun _ heq => h' (List.cons_eq_cons.1 heq).1

theorem within_scanAfterDigits (offset : Nat) (cs : List Char) :
    Within offset cs (scanAfterDigits isNegative fraction offset cs) := by
  cases cs with
  | nil => exact within_finishNumber isNegative fraction offset []
  | cons c cs =>
    have hexponent := within_scanExponent isNegative fraction (offset + 1) cs
    by_cases hlower : c = 'e'
    · subst hlower
      exact hexponent.of_behind
    by_cases hupper : c = 'E'
    · subst hupper
      exact hexponent.of_behind
    · rw [scanAfterDigits_other isNegative fraction offset hlower hupper]
      exact within_finishNumber isNegative fraction offset (c :: cs)

theorem carries_scanAfterDigits (h : Shares place offset cs cs') :
    Carries place (scanAfterDigits isNegative fraction offset cs)
      (scanAfterDigits isNegative fraction offset cs') := by
  refine carries_of_head _ h (within_scanAfterDigits isNegative fraction offset cs) ?_ ?_
  · intro c rest rest' hrest
    by_cases hlower : c = 'e'
    · subst hlower
      exact carries_scanExponent isNegative fraction hrest
    by_cases hupper : c = 'E'
    · subst hupper
      exact carries_scanExponent isNegative fraction hrest
    · rw [scanAfterDigits_other isNegative fraction offset hlower hupper,
        scanAfterDigits_other isNegative fraction offset hlower hupper]
      exact carries_finishNumber isNegative fraction (.cons c hrest)
  · intro c c' rest rest' hc hc' _ hshares
    rw [scanAfterDigits_other isNegative fraction offset (hc.ne rfl) (hc.ne rfl),
      scanAfterDigits_other isNegative fraction offset (hc'.ne rfl) (hc'.ne rfl)]
    exact carries_finishNumber isNegative fraction hshares

/-- A number with the digits behind its point. -/
def finishDecimals (offset : Nat) (digits rest : List Char) : Except Fault (Scan Number) :=
  let (significand, lost) := absorb fraction.significand digits
  let exponent := fraction.exponent - (digits.length - lost.length : Nat)
  scanAfterDigits isNegative ⟨significand, exponent, false⟩ (offset + digits.length) rest

/-- Scans that only go on behind the digits. -/
theorem goesOn_of_behind {go : List Char → List Char → Except Fault (Scan Number)}
    (hwithin : ∀ digits rest, Within (offset + digits.length) rest (go digits rest))
    (hcarries : ∀ digits rest rest', Shares place (offset + digits.length) rest rest' →
      Carries place (go digits rest) (go digits rest')) : GoesOn place offset go where
  within digits rest := (hwithin digits rest).of_append
  carries := hcarries
  stop digits rest _ h := (hwithin digits rest).le_stop h
  early digits rest _ h := .inl ((hwithin digits rest).le_offset h)

theorem goesOn_finishDecimals (place offset : Nat) :
    GoesOn place offset (finishDecimals isNegative fraction offset) :=
  goesOn_of_behind (fun _ _ => within_scanAfterDigits isNegative _ _ _)
    fun _ _ _ h => carries_scanAfterDigits isNegative _ h

theorem scanAfterWhole_other (offset : Nat) (h : c ≠ '.') (cs : List Char) :
    scanAfterWhole isNegative fraction offset (c :: cs)
      = scanAfterDigits isNegative fraction offset (c :: cs) := by
  rw [scanAfterWhole]
  exact fun _ heq => h (List.cons_eq_cons.1 heq).1

theorem within_scanAfterWhole (offset : Nat) (cs : List Char) :
    Within offset cs (scanAfterWhole isNegative fraction offset cs) := by
  cases cs with
  | nil => exact within_scanAfterDigits isNegative fraction offset []
  | cons c cs =>
    by_cases hpoint : c = '.'
    · subst hpoint
      have hdecimals := goesOn_finishDecimals isNegative fraction 0 (offset + 1)
      exact (hdecimals.within_scanDigits cs).of_behind
    · rw [scanAfterWhole_other isNegative fraction offset hpoint]
      exact within_scanAfterDigits isNegative fraction offset (c :: cs)

theorem carries_scanAfterWhole (h : Shares place offset cs cs') :
    Carries place (scanAfterWhole isNegative fraction offset cs)
      (scanAfterWhole isNegative fraction offset cs') := by
  refine carries_of_head _ h (within_scanAfterWhole isNegative fraction offset cs) ?_ ?_
  · intro c rest rest' hrest
    by_cases hpoint : c = '.'
    · subst hpoint
      exact (goesOn_finishDecimals isNegative fraction place _).carries_scanDigits hrest
    · rw [scanAfterWhole_other isNegative fraction offset hpoint,
        scanAfterWhole_other isNegative fraction offset hpoint]
      exact carries_scanAfterDigits isNegative fraction (.cons c hrest)
  · intro c c' rest rest' hc hc' _ hshares
    rw [scanAfterWhole_other isNegative fraction offset (hc.ne rfl),
      scanAfterWhole_other isNegative fraction offset (hc'.ne rfl)]
    exact carries_scanAfterDigits isNegative fraction hshares

/-- A number with the digits in front of its point.  Behind a zero in front there
    are no others. -/
def finishWhole (offset : Nat) : List Char → List Char → Except Fault (Scan Number)
  | '0' :: _ :: _, _ => fail .invalidNumber (offset + 2)
  | digits, rest =>
    let (significand, lost) := absorb 0 digits
    scanAfterWhole isNegative ⟨significand, lost.length, lost.isEmpty⟩ (offset + digits.length) rest

/-- Either a second digit is at fault, whatever comes next, or all of them are taken. -/
theorem finishWhole_cases (offset : Nat) (digits : List Char) :
    (∃ d more, digits = '0' :: d :: more)
      ∨ ∃ fraction, finishWhole isNegative offset digits
          = scanAfterWhole isNegative fraction (offset + digits.length) := by
  by_cases hzero : ∃ d more, digits = '0' :: d :: more
  · exact .inl hzero
  · refine .inr ⟨⟨(absorb 0 digits).1, (absorb 0 digits).2.length, (absorb 0 digits).2.isEmpty⟩,
      funext fun rest => ?_⟩
    rw [finishWhole]
    exact fun d more heq => hzero ⟨d, more, heq⟩

theorem scanNumber_eq (offset : Nat) (cs : List Char) :
    scanNumber isNegative offset cs = scanDigits offset (finishWhole isNegative offset) cs := by
  unfold scanNumber scanDigits
  cases takeDigits cs with
  | nil => rfl
  | cons d digits =>
    by_cases hzero : ∃ d' more, d :: digits = '0' :: d' :: more
    · obtain ⟨d', more, heq⟩ := hzero
      cases heq
      rfl
    · rw [List.isEmpty_cons, if_neg Bool.false_ne_true, finishWhole]
      · simp only
        split
        · next heq => cases heq
        · next heq => exact absurd ⟨_, _, heq⟩ hzero
        · rfl
      · exact fun d' more heq => hzero ⟨d', more, heq⟩

theorem goesOn_finishWhole (place offset : Nat) :
    GoesOn place offset (finishWhole isNegative offset) where
  within digits rest := by
    rcases finishWhole_cases isNegative offset digits with ⟨d, more, rfl⟩ | ⟨fraction, hgo⟩
    · exact within_fail_behind.of_behind
    · rw [hgo]
      exact (within_scanAfterWhole isNegative fraction _ rest).of_append
  carries digits rest rest' h := by
    rcases finishWhole_cases isNegative offset digits with ⟨d, more, rfl⟩ | ⟨fraction, hgo⟩
    · exact carries_fail
    · rw [hgo]
      exact carries_scanAfterWhole isNegative fraction h
  stop digits rest s h := by
    rcases finishWhole_cases isNegative offset digits with ⟨d, more, rfl⟩ | ⟨fraction, hgo⟩
    · cases h
    · rw [hgo] at h
      exact (within_scanAfterWhole isNegative fraction _ rest).le_stop h
  early digits rest fault h := by
    rcases finishWhole_cases isNegative offset digits with ⟨d, more, rfl⟩ | ⟨fraction, hgo⟩
    · cases h
      refine .inr ⟨Nat.lt_add_of_pos_right Nat.two_pos, fun more' rest' => ?_⟩
      simp only [Nat.add_sub_cancel_left]
      rfl
    · rw [hgo] at h
      exact .inl ((within_scanAfterWhole isNegative fraction _ rest).le_offset h)

theorem within_scanNumber (offset : Nat) (cs : List Char) :
    Within offset cs (scanNumber isNegative offset cs) := by
  rw [scanNumber_eq]
  exact (goesOn_finishWhole isNegative 0 offset).within_scanDigits cs

theorem carries_scanNumber (h : Shares place offset cs cs') :
    Carries place (scanNumber isNegative offset cs) (scanNumber isNegative offset cs') := by
  rw [scanNumber_eq, scanNumber_eq]
  exact (goesOn_finishWhole isNegative place offset).carries_scanDigits h

end

end ClassAtlas.Manifest
