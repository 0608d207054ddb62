import ClassAtlas.Proofs.Manifest.Sharing

/-! # Quoted texts of texts that begin alike

    A quoted text is scanned character by character.  An escape takes the bytes
    that it needs before it is judged, so where it is at fault all of them are
    known.
-/

namespace ClassAtlas.Manifest

variable {place offset : Nat} {cs cs' : List Char}

/-! ## Four digits -/

theorem utf8Size_of_hexValue {c : Char} {n : Nat} (h : Hex.value? c = some n) : c.utf8Size = 1 := by
  rw [Char.utf8Size_eq_one_iff]
  have hle : c.val ≤ 'f'.val := by
    unfold Hex.value? at h
    split at h
    · next hc => exact UInt32.le_trans hc.2 (by decide)
    · split at h
      · next hc => exact hc.2
      · split at h
        · next hc => exact UInt32.le_trans hc.2 (by decide)
        · cases h
  exact UInt32.le_trans hle (by decide)

/-- Four digits are known by themselves, and each of them takes one byte. -/
theorem quad?_eq_some {rest : List Char} {value : Nat} (h : quad? cs = some (value, rest)) :
    ∃ digits : List Char, digits.length = 4 ∧ (∀ c ∈ digits, c.utf8Size = 1) ∧ cs = digits ++ rest
      ∧ ∀ rest', quad? (digits ++ rest') = some (value, rest') := by
  unfold quad? at h
  split at h
  · next a b c d rest =>
    obtain ⟨n, hn, heq⟩ := Option.map_eq_some_iff.1 h
    cases heq
    refine ⟨[a, b, c, d], rfl, ?_, rfl, ?_⟩
    · have hdigit : ∀ {m : Nat} {c : Char} {n : Nat},
          (Hex.value? c).map (m * 16 + ·) = some n → c.utf8Size = 1 := by
        intro m c n hmap
        obtain ⟨v, hv, -⟩ := Option.map_eq_some_iff.1 hmap
        exact utf8Size_of_hexValue hv
      simp only [Hex.number?, List.foldlM_cons, List.foldlM_nil, Option.bind_eq_bind,
        Option.bind_eq_some_iff] at hn
      obtain ⟨_, ha, _, hb, _, hc, _, hd, -⟩ := hn
      simp only [List.forall_mem_cons, List.not_mem_nil, false_implies, implies_true, and_true]
      exact ⟨hdigit ha, hdigit hb, hdigit hc, hdigit hd⟩
    · intro rest'
      show (Hex.number? [a, b, c, d]).map (·, rest') = _
      rw [hn]
      rfl
  · cases h

theorem within_scanQuad (offset : Nat) (cs : List Char) :
    Within offset cs (scanQuad offset cs) := by
  unfold scanQuad
  split
  · next value rest hquad =>
    obtain ⟨digits, hlength, -, rfl, -⟩ := quad?_eq_some hquad
    rw [← hlength]
    exact (within_ok value).of_append
  · split
    · exact within_fail (by omega) (by omega)
    · exact within_fail (by omega) (by omega)

/-- Four digits before the place are there in both texts. -/
theorem Shares.quad {rest : List Char} {value : Nat} (h : Shares place offset cs cs')
    (hplace : offset + 4 ≤ place) (hquad : quad? cs = some (value, rest)) :
    ∃ rest', quad? cs' = some (value, rest') ∧ Shares place (offset + 4) rest rest' := by
  obtain ⟨digits, hlength, hnarrow, rfl, hdigits⟩ := quad?_eq_some hquad
  obtain ⟨rest', rfl, hshares⟩ := h.append_narrow (by omega) hnarrow
  rw [hlength] at hshares
  exact ⟨rest', hdigits rest', hshares⟩

theorem carries_scanQuad (h : Shares place offset cs cs') :
    Carries place (scanQuad offset cs) (scanQuad offset cs') := by
  cases hquad : quad? cs with
  | some part =>
    obtain ⟨value, rest⟩ := part
    simp only [scanQuad, hquad]
    intro hplace
    obtain ⟨rest', hquad', hshares⟩ := h.quad hplace hquad
    rw [hquad']
    exact ⟨rest', rfl, hshares⟩
  | none =>
    simp only [scanQuad, hquad]
    have hsize := h.lt_size
    have hsize' := h.symm.lt_size
    split
    · intro hplace
      have hplace : offset + 4 ≤ place := hplace
      -- four digits of the other text would be here too
      have hnone : quad? cs' = none := by
        rw [Option.eq_none_iff_forall_ne_some]
        rintro ⟨value, rest'⟩ hquad'
        obtain ⟨rest, hsome, -⟩ := h.symm.quad hplace hquad'
        rw [hquad] at hsome
        cases hsome
      rw [hnone]
      simp only
      rw [if_pos (by omega)]
      rfl
    · intro hplace
      have hplace : offset + Utf8.size cs ≤ place := hplace
      omega

/-! ## Escapes -/

/-- The pair of a surrogate that is known and one that was scanned. -/
def finishPair (high : Nat) (low : Scan Nat) : Except Fault (Scan Char) :=
  if isLowSurrogate low.value then .ok ⟨pairedChar high low.value, low.stop, low.rest⟩
  else fail .loneSurrogate low.stop

theorem within_finishPair (high : Nat) (low : Scan Nat) :
    Within low.stop low.rest (finishPair high low) := by
  unfold finishPair
  split
  · exact within_ok _
  · exact within_fail_here

theorem carries_finishPair (high : Nat) {value stop : Nat} (h : Shares place stop cs cs') :
    Carries place (finishPair high ⟨value, stop, cs⟩) (finishPair high ⟨value, stop, cs'⟩) := by
  unfold finishPair
  simp only
  split
  · exact carries_ok _ h
  · exact carries_fail

theorem scanLowSurrogate_unit (high offset : Nat) (cs : List Char) :
    scanLowSurrogate high offset ('\\' :: 'u' :: cs)
      = scanQuad (offset + 2) cs >>= finishPair high := rfl

theorem scanLowSurrogate_letter {c : Char} (h : c ≠ 'u') (high offset : Nat) (cs : List Char) :
    scanLowSurrogate high offset ('\\' :: c :: cs) = fail .unfinishedSurrogate (offset + 2) := by
  rw [scanLowSurrogate]
  exact h

theorem scanLowSurrogate_other {c : Char} (h : c ≠ '\\') (high offset : Nat) (cs : List Char) :
    scanLowSurrogate high offset (c :: cs) = fail .unfinishedSurrogate (offset + 1) := by
  rw [scanLowSurrogate]
  · exact fun heq => absurd heq h
  · exact fun _ heq => absurd heq h
  · exact fun _ _ heq => absurd heq h

/-- The second half of a surrogate pair, after its backslash. -/
theorem within_lowLetter (high offset : Nat) (cs : List Char) :
    Within (offset + 1) cs (scanLowSurrogate high offset ('\\' :: cs)) := by
  cases cs with
  | nil => exact within_fail_here
  | cons c cs =>
    by_cases hunit : c = 'u'
    · subst hunit
      have hquad := (within_scanQuad (offset + 2) cs).bind fun s _ => within_finishPair high s
      exact hquad.of_behind
    · rw [scanLowSurrogate_letter hunit]
      exact within_fail_behind

theorem carries_lowLetter (high : Nat) (h : Shares place (offset + 1) cs cs') :
    Carries place (scanLowSurrogate high offset ('\\' :: cs))
      (scanLowSurrogate high offset ('\\' :: cs')) := by
  refine carries_of_head (fun cs => scanLowSurrogate high offset ('\\' :: cs)) h
    (within_lowLetter high offset cs) ?_ ?_
  · intro c rest rest' hrest
    by_cases hunit : c = 'u'
    · subst hunit
      simp only [scanLowSurrogate_unit]
      exact (carries_scanQuad hrest).bind (within_finishPair high) fun low rest' _ hlow =>
        carries_finishPair high hlow
    · simp only [scanLowSurrogate_letter hunit]
      exact carries_fail
  · intro c c' rest rest' hc hc' _ _
    simp only [scanLowSurrogate_letter (hc.ne (d := 'u') rfl),
      scanLowSurrogate_letter (hc'.ne (d := 'u') rfl)]
    exact carries_fail

theorem within_scanLowSurrogate (high offset : Nat) (cs : List Char) :
    Within offset cs (scanLowSurrogate high offset cs) := by
  cases cs with
  | nil => exact within_fail_here
  | cons c cs =>
    by_cases hslash : c = '\\'
    · subst hslash
      exact (within_lowLetter high offset cs).of_behind
    · rw [scanLowSurrogate_other hslash]
      exact within_fail_behind

theorem carries_scanLowSurrogate (high : Nat) (h : Shares place offset cs cs') :
    Carries place (scanLowSurrogate high offset cs) (scanLowSurrogate high offset cs') := by
  refine carries_of_head _ h (within_scanLowSurrogate high offset cs) ?_ ?_
  · intro c rest rest' hrest
    by_cases hslash : c = '\\'
    · subst hslash
      exact carries_lowLetter high hrest
    · rw [scanLowSurrogate_other hslash, scanLowSurrogate_other hslash]
      exact carries_fail
  · intro c c' rest rest' hc hc' _ _
    rw [scanLowSurrogate_other (hc.ne rfl), scanLowSurrogate_other (hc'.ne rfl)]
    exact carries_fail

/-- The character of a unit that was scanned, or of the pair that it opens. -/
def finishUnit (unit : Scan Nat) : Except Fault (Scan Char) :=
  if isLowSurrogate unit.value then fail .loneSurrogate unit.stop
  else if isHighSurrogate unit.value then scanLowSurrogate unit.value unit.stop unit.rest
  else .ok ⟨Char.ofNat unit.value, unit.stop, unit.rest⟩

theorem within_finishUnit (unit : Scan Nat) : Within unit.stop unit.rest (finishUnit unit) := by
  unfold finishUnit
  split
  · exact within_fail_here
  · split
    · exact within_scanLowSurrogate _ _ _
    · exact within_ok _

theorem carries_finishUnit {value stop : Nat} (h : Shares place stop cs cs') :
    Carries place (finishUnit ⟨value, stop, cs⟩) (finishUnit ⟨value, stop, cs'⟩) := by
  unfold finishUnit
  simp only
  split
  · exact carries_fail
  · split
    · exact carries_scanLowSurrogate _ h
    · exact carries_ok _ h

/-- A letter after a backslash. -/
def finishLetter (offset : Nat) (c : Char) (cs : List Char) : Except Fault (Scan Char) :=
  match escaped? c with
  | some d => .ok ⟨d, offset + 1, cs⟩
  | none => fail .invalidEscape (offset + 1)

theorem scanEscape_letter {c : Char} (h : c ≠ 'u') (offset : Nat) (cs : List Char) :
    scanEscape offset (c :: cs) = finishLetter offset c cs := by
  rw [scanEscape]
  · rfl
  · exact h

theorem within_finishLetter (offset : Nat) (c : Char) (cs : List Char) :
    Within offset (c :: cs) (finishLetter offset c cs) := by
  unfold finishLetter
  split
  · exact (within_ok _).of_behind
  · exact within_fail_behind

theorem escaped?_of_isWide {c : Char} (h : IsWide c) : escaped? c = none := by
  simp only [escaped?, h.ne (d := '\"') rfl, h.ne (d := '\\') rfl, h.ne (d := '/') rfl,
    h.ne (d := 'b') rfl, h.ne (d := 'f') rfl, h.ne (d := 'n') rfl, h.ne (d := 'r') rfl,
    h.ne (d := 't') rfl, or_false, if_false]

theorem carries_finishLetter {c : Char} (h : Shares place (offset + c.utf8Size) cs cs') :
    Carries place (finishLetter offset c cs) (finishLetter offset c cs') := by
  unfold finishLetter
  split
  · next d hd =>
    have hnarrow : ¬ IsWide c := by
      intro hwide
      rw [escaped?_of_isWide hwide] at hd
      cases hd
    rw [utf8Size_of_not_isWide hnarrow] at h
    exact carries_ok d h
  · exact carries_fail

theorem within_scanEscape (offset : Nat) (cs : List Char) :
    Within offset cs (scanEscape offset cs) := by
  cases cs with
  | nil => exact within_fail_here
  | cons c cs =>
    by_cases hunit : c = 'u'
    · subst hunit
      have hquad := (within_scanQuad (offset + 1) cs).bind fun s _ => within_finishUnit s
      exact hquad.of_behind
    · rw [scanEscape_letter hunit]
      exact within_finishLetter offset c cs

theorem carries_scanEscape (h : Shares place offset cs cs') :
    Carries place (scanEscape offset cs) (scanEscape offset cs') := by
  refine carries_of_head _ h (within_scanEscape offset cs) ?_ ?_
  · intro c rest rest' hrest
    by_cases hunit : c = 'u'
    · subst hunit
      exact (carries_scanQuad hrest).bind within_finishUnit fun _ _ _ => carries_finishUnit
    · rw [scanEscape_letter hunit, scanEscape_letter hunit]
      exact carries_finishLetter hrest
  · intro c c' rest rest' hc hc' _ _
    rw [scanEscape_letter (hc.ne rfl), scanEscape_letter (hc'.ne rfl), finishLetter, finishLetter,
      escaped?_of_isWide hc, escaped?_of_isWide hc']
    exact carries_fail

/-! ## Characters between quotes -/

/-- A character in front of a quoted text that is scanned from where it stops. -/
def finishChar (e : Scan Char) : Except Fault (Scan (List Char)) :=
  (scanText e.stop e.rest).map fun t => ⟨e.value :: t.value, t.stop, t.rest⟩

theorem scanText_backslash (offset : Nat) (cs : List Char) :
    scanText offset ('\\' :: cs) = scanEscape (offset + 1) cs >>= finishChar := by
  rw [scanText]
  split
  · next fault hfault =>
    rw [hfault]
    rfl
  · next e he =>
    have hbind : scanEscape (offset + 1) cs >>= finishChar = finishChar e := by
      rw [he]
      rfl
    rw [hbind, finishChar]
    cases scanText e.stop e.rest <;> rfl

theorem scanText_other {c : Char} (hquote : c ≠ '\"') (hslash : c ≠ '\\') (offset : Nat)
    (cs : List Char) :
    scanText offset (c :: cs)
      = if c.toNat < 0x20 then fail .controlCharacter (offset + 1)
        else finishChar ⟨c, offset + c.utf8Size, cs⟩ := by
  rw [scanText]
  · split
    · rfl
    · rw [finishChar]
      cases scanText (offset + c.utf8Size) cs <;> rfl
  · exact hquote
  · exact hslash

theorem not_control_of_isWide {c : Char} (h : IsWide c) : ¬ c.toNat < 0x20 := by
  intro hcontrol
  have hone : c.utf8Size = 1 := by
    rw [Char.utf8Size_eq_one_iff, UInt32.le_iff_toNat_le]
    exact Nat.le_of_lt (Nat.lt_trans hcontrol (by decide))
  unfold IsWide at h
  omega

theorem within_scanText (offset : Nat) (cs : List Char) :
    Within offset cs (scanText offset cs) := by
  -- along the text, of which an escape takes several characters
  induction hn : cs.length using Nat.strongRecOn generalizing offset cs with
  | _ n ih =>
    subst hn
    have hchar : ∀ e : Scan Char, e.rest.length < cs.length → Within e.stop e.rest (finishChar e) :=
      fun e he => (ih _ he e.stop e.rest rfl).map _
    cases cs with
    | nil =>
      rw [scanText]
      exact within_fail_here
    | cons c cs =>
      by_cases hquote : c = '\"'
      · subst hquote
        rw [scanText_quote]
        exact (within_ok []).of_behind
      by_cases hslash : c = '\\'
      · subst hslash
        rw [scanText_backslash]
        have hescape := (within_scanEscape (offset + 1) cs).bind fun e he =>
          hchar e (Nat.lt_succ_of_lt (length_scanEscape he))
        exact hescape.of_behind
      · rw [scanText_other hquote hslash]
        split
        · exact within_fail_behind
        · exact (hchar ⟨c, offset + c.utf8Size, cs⟩ (Nat.lt_succ_self _)).of_isSuffix
            (Nat.le_add_right _ _) (Nat.le_of_eq (Nat.add_assoc offset c.utf8Size (Utf8.size cs)))

theorem within_finishChar (e : Scan Char) : Within e.stop e.rest (finishChar e) :=
  (within_scanText e.stop e.rest).map _

theorem carries_scanText (h : Shares place offset cs cs') :
    Carries place (scanText offset cs) (scanText offset cs') := by
  induction hn : cs.length using Nat.strongRecOn generalizing offset cs cs' with
  | _ n ih =>
    subst hn
    have hchar : ∀ (value : Char) (stop : Nat) (rest rest' : List Char), rest.length < cs.length →
        Shares place stop rest rest' →
        Carries place (finishChar ⟨value, stop, rest⟩) (finishChar ⟨value, stop, rest'⟩) :=
      fun value stop rest rest' hlt hshares => (ih _ hlt hshares rfl).map (value :: ·)
    by_cases hoffset : offset ≤ place
    · cases cs with
      | nil => exact absurd h.lt_of_nil (by omega)
      | cons c cs =>
        obtain ⟨c', rest', rfl, ⟨rfl, hrest⟩ | ⟨hc, hc', hlt⟩⟩ := h.uncons hoffset
        · by_cases hquote : c' = '\"'
          · subst hquote
            rw [scanText_quote, scanText_quote]
            exact carries_ok [] hrest
          by_cases hslash : c' = '\\'
          · subst hslash
            rw [scanText_backslash, scanText_backslash]
            exact (carries_scanEscape hrest).bind within_finishChar fun e rest' he hshares =>
              hchar _ _ _ _ (Nat.lt_succ_of_lt (length_scanEscape he)) hshares
          · rw [scanText_other hquote hslash, scanText_other hquote hslash]
            split
            · exact carries_fail
            · exact hchar _ _ _ _ (Nat.lt_succ_self _) hrest
        · -- the text goes on behind the place
          rw [scanText_other (hc.ne rfl) (hc.ne rfl), if_neg (not_control_of_isWide hc)]
          exact .of_lt (within_finishChar _) hlt
    · exact .of_lt (within_scanText offset cs) (by omega)

end ClassAtlas.Manifest
