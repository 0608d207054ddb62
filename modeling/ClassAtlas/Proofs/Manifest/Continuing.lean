import ClassAtlas.Proofs.Manifest.Lexing

/-! # Texts that go on

    A scanner stops at the end of its part, so the part is scanned alike when
    the text goes on.  Hence the tape of a longer text starts with the tokens
    of the shorter one (`Tape.ofChars_more`).

    Numbers are another matter, `1` goes on as `12`; the tokens compared are
    those of texts without any.
-/

namespace ClassAtlas.Manifest

/-! ## Scans of longer texts -/

/-- The scan if `more` follows the text. -/
def Scan.append {α : Type} (s : Scan α) (more : List Char) : Scan α :=
  { s with rest := s.rest ++ more }

theorem scanWord_more {offset : Nat} {word cs : List Char} {s : Scan Unit}
    (h : scanWord offset word cs = .ok s) (more : List Char) :
    scanWord offset word (cs ++ more) = .ok (s.append more) := by
  induction word generalizing offset cs with
  | nil =>
    cases h
    rfl
  | cons w word ih =>
    cases cs with
    | nil => cases h
    | cons c cs =>
      simp only [scanWord] at h
      rw [List.cons_append, scanWord]
      split at h
      · rw [if_pos ‹c = w›]
        exact ih h
      · cases h

theorem quad?_more {cs rest : List Char} {value : Nat} (h : quad? cs = some (value, rest))
    (more : List Char) : quad? (cs ++ more) = some (value, rest ++ more) := by
  unfold quad? at h
  split at h
  · next a b c d after =>
    obtain ⟨n, hn, hpair⟩ := Option.map_eq_some_iff.1 h
    cases hpair
    show (Hex.number? [a, b, c, d]).map (·, rest ++ more) = _
    rw [hn]
    rfl
  · cases h

theorem scanQuad_more {offset : Nat} {cs : List Char} {s : Scan Nat}
    (h : scanQuad offset cs = .ok s) (more : List Char) :
    scanQuad offset (cs ++ more) = .ok (s.append more) := by
  unfold scanQuad at h
  split at h
  · next hq =>
    cases h
    rw [scanQuad, quad?_more hq more]
    rfl
  · split at h <;> cases h

theorem scanLowSurrogate_more {high offset : Nat} {cs : List Char} {s : Scan Char}
    (h : scanLowSurrogate high offset cs = .ok s) (more : List Char) :
    scanLowSurrogate high offset (cs ++ more) = .ok (s.append more) := by
  unfold scanLowSurrogate at h
  split at h
  · cases h
  · cases h
  · next cs =>
    cases hq : scanQuad (offset + 2) cs with
    | error fault =>
      rw [hq] at h
      cases h
    | ok low =>
      rw [hq] at h
      rw [List.cons_append, List.cons_append, scanLowSurrogate, scanQuad_more hq more]
      cases hlow : isLowSurrogate low.value with
      | false =>
        simp only [bind, Except.bind, hlow, Bool.false_eq_true, if_false] at h
        cases h
      | true =>
        simp only [bind, Except.bind, hlow, if_true] at h
        rw [← Except.ok.inj h]
        simp only [bind, Except.bind, Scan.append, hlow, if_true]
  · cases h
  · cases h

theorem scanEscape_more {offset : Nat} {cs : List Char} {s : Scan Char}
    (h : scanEscape offset cs = .ok s) (more : List Char) :
    scanEscape offset (cs ++ more) = .ok (s.append more) := by
  unfold scanEscape at h
  split at h
  · cases h
  · next cs =>
    cases hq : scanQuad (offset + 1) cs with
    | error fault =>
      rw [hq] at h
      cases h
    | ok unit =>
      rw [hq] at h
      rw [List.cons_append, scanEscape, scanQuad_more hq more]
      cases hlow : isLowSurrogate unit.value with
      | true =>
        simp only [bind, Except.bind, hlow, if_true] at h
        cases h
      | false =>
        cases hhigh : isHighSurrogate unit.value with
        | true =>
          simp only [bind, Except.bind, hlow, hhigh, Bool.false_eq_true, if_false, if_true] at h
          simp only [bind, Except.bind, Scan.append, hlow, hhigh, Bool.false_eq_true, if_false,
            if_true]
          exact scanLowSurrogate_more h more
        | false =>
          simp only [bind, Except.bind, hlow, hhigh, Bool.false_eq_true, if_false] at h
          rw [← Except.ok.inj h]
          simp only [bind, Except.bind, Scan.append, hlow, hhigh, Bool.false_eq_true, if_false]
  · next c cs hu =>
    split at h
    · next d hd =>
      cases h
      rw [List.cons_append, scanEscape, hd]
      · rfl
      · exact hu
    · cases h

theorem scanText_more {offset : Nat} {cs : List Char} {s : Scan (List Char)}
    (h : scanText offset cs = .ok s) (more : List Char) :
    scanText offset (cs ++ more) = .ok (s.append more) := by
  fun_induction scanText offset cs generalizing s with
  | case1 => cases h
  | case2 offset rest =>
    cases h
    exact scanText_quote offset (rest ++ more)
  | case3 => cases h
  | case4 => cases h
  | case5 offset rest e he hlt t ht ih =>
    cases h
    exact scanText_escape (scanEscape_more he more) (ih ht)
  | case6 => cases h
  | case7 => cases h
  | case8 offset c rest hquote hslash hcontrol t ht ih =>
    cases h
    exact scanText_raw (Nat.not_lt.1 hcontrol) hquote hslash (ih ht)

/-! ## Tokens of longer texts -/

def Token.isNumber : Token → Bool
  | .number _ => true
  | _ => false

theorem scanToken?_more {offset : Nat} {c : Char} {rest : List Char} {s : Scan Token}
    (h : scanToken? offset c rest = some (.ok s)) (hnumber : s.value.isNumber = false)
    (more : List Char) : scanToken? offset c (rest ++ more) = some (.ok (s.append more)) := by
  unfold scanToken? at h ⊢
  split at h
  · cases h
    rfl
  · split at h
    · obtain ⟨w, hw, rfl⟩ := map_eq_ok (Option.some.inj h)
      rw [scanWord_more hw more]
      rfl
    · split at h
      · next hc =>
        obtain ⟨t, ht, rfl⟩ := map_eq_ok (Option.some.inj h)
        rw [if_pos hc, scanText_more ht more]
        rfl
      · -- every other token is a number
        split at h
        · obtain ⟨n, _, rfl⟩ := map_eq_ok (Option.some.inj h)
          cases hnumber
        · split at h
          · obtain ⟨n, _, rfl⟩ := map_eq_ok (Option.some.inj h)
            cases hnumber
          · cases h

theorem isBlank_iff {c : Char} : isBlank c ↔ c ∈ [' ', '\t', '\r', '\n'] := by
  constructor
  · intro h
    simp only [isBlank, Bool.or_eq_true, beq_iff_eq] at h
    rcases h with ((rfl | rfl) | rfl) | rfl <;> decide
  · intro h
    have hall : ∀ d ∈ [' ', '\t', '\r', '\n'], isBlank d := List.all_iff_forall_prop.1 (by decide)
    exact hall c h

/-! ## Tapes as lists of tokens -/

/-- A token with the places where it starts and stops. -/
structure PlacedToken where
  start : Nat
  stop : Nat
  value : Token

def NumberFree (ts : List PlacedToken) : Prop := ∀ p ∈ ts, p.value.isNumber = false

theorem NumberFree.append {ts us : List PlacedToken} (ht : NumberFree ts) (hu : NumberFree us) :
    NumberFree (ts ++ us) := List.forall_mem_append.2 ⟨ht, hu⟩

namespace Tape

/-- The tape that has the tokens first, and then the rest. -/
def after (rest : Tape) : List PlacedToken → Tape
  | [] => rest
  | p :: ts => .token p.start p.stop p.value (rest.after ts)

@[simp] theorem after_nil (rest : Tape) : rest.after [] = rest := rfl

@[simp] theorem after_cons (rest : Tape) (p : PlacedToken) (ts : List PlacedToken) :
    rest.after (p :: ts) = .token p.start p.stop p.value (rest.after ts) := rfl

theorem after_append (rest : Tape) (ts us : List PlacedToken) :
    rest.after (ts ++ us) = (rest.after us).after ts := by
  induction ts with
  | nil => rfl
  | cons p ts ih => rw [List.cons_append, after_cons, after_cons, ih]

/-! ## Tapes of longer texts -/

/-- Only blanks leave nothing on a tape. -/
theorem isGap_of_ofChars_eq_finish {offset stop : Nat} {cs : List Char}
    (h : ofChars offset cs = .finish stop) : IsGap cs := by
  fun_induction ofChars offset cs with
  | case1 => exact nofun
  | case2 offset c rest hblank ih =>
    intro d hd
    rcases List.mem_cons.1 hd with rfl | hd
    · exact isBlank_iff.1 hblank
    · exact ih h d hd
  | case3 => cases h
  | case4 => cases h
  | case5 => cases h

theorem ofChars_more {offset stop : Nat} {cs : List Char} {ts : List PlacedToken}
    (h : ofChars offset cs = (finish stop).after ts) (hfree : NumberFree ts) (more : List Char) :
    ofChars offset (cs ++ more) = (ofChars stop more).after ts := by
  fun_induction ofChars offset cs generalizing ts with
  | case1 offset =>
    cases ts with
    | nil =>
      cases h
      rfl
    | cons p ts => cases h
  | case2 offset c rest hblank ih =>
    rw [List.cons_append, ofChars_blank hblank]
    exact ih h hfree
  | case3 | case4 => cases ts <;> cases h
  | case5 offset c rest hblank s hscan hlength ih =>
    have hchar : isBlank c = false := Bool.not_eq_true _ ▸ hblank
    cases ts with
    | nil => cases h
    | cons p ts =>
      injection h with hstart hstop hvalue htail
      obtain ⟨hnumber, hfree⟩ := List.forall_mem_cons.1 hfree
      have htoken := scanToken?_more hscan (hvalue ▸ hnumber) more
      rw [List.cons_append, ofChars_token hchar htoken, after_cons, ← hstart, ← hstop, ← hvalue]
      exact congrArg _ (ih htail hfree)

end Tape

end ClassAtlas.Manifest
