import ClassAtlas.Proofs.Manifest.Continuing
import ClassAtlas.Proofs.Manifest.SharingNumbers
import ClassAtlas.Proofs.Manifest.SharingTexts

/-! # Tapes of texts that begin alike

    Two texts that share their bytes up to a place and the byte after it have
    the same tokens up to the place.  The token at the place looks the same in
    both to those who judge it by what was read (`Looks`): it is the same, or it
    goes on behind the place in both, and then it is told from others by its
    first byte only.
-/

namespace ClassAtlas.Manifest

variable {place offset : Nat} {c : Char} {cs cs' rest rest' : List Char}

def Token.mark? : Token → Option Mark
  | .mark m => some m
  | _ => none

def Token.isText : Token → Bool
  | .text _ => true
  | _ => false

/-! ## Tokens -/

/-- How the tokens are scanned that start with a character. -/
structure Starts (c : Char) (scan : Nat → List Char → Except Fault (Scan Token)) : Prop where
  narrow : c.utf8Size = 1
  scanToken?_eq : ∀ offset rest, scanToken? offset c rest = some (scan offset rest)
  within : ∀ offset rest, Within offset (c :: rest) (scan offset rest)
  carries : ∀ {place offset rest rest'}, Shares place (offset + 1) rest rest' →
    Carries place (scan offset rest) (scan offset rest')
  isText_eq : ∀ {offset rest s}, scan offset rest = .ok s → s.value.isText = (c == '\"')
  /-- A mark does not depend on what follows. -/
  mark : ∀ {offset rest s}, scan offset rest = .ok s → s.value.mark? ≠ none →
    ∀ rest', scan offset rest' = .ok ⟨s.value, s.stop, rest'⟩

theorem utf8Size_of_mark? {m : Mark} (h : mark? c = some m) : c.utf8Size = 1 := by
  apply utf8Size_of_not_isWide
  intro hwide
  simp [mark?, hwide.ne (d := '\x7b') rfl, hwide.ne (d := '\x7d') rfl, hwide.ne (d := '[') rfl,
    hwide.ne (d := ']') rfl, hwide.ne (d := ',') rfl, hwide.ne (d := ':') rfl] at h

theorem starts_mark {m : Mark} (h : mark? c = some m) :
    Starts c fun offset rest => .ok ⟨.mark m, offset + 1, rest⟩ where
  narrow := utf8Size_of_mark? h
  scanToken?_eq offset rest := by simp only [scanToken?, h]
  within offset rest := (within_ok _).of_behind
  carries h := carries_ok _ h
  isText_eq hs := by
    cases hs
    have hquote : c ≠ '\"' := by
      rintro rfl
      cases h
    exact (beq_false_of_ne hquote).symm
  mark hs _ rest' := by
    cases hs
    rfl

/-- A scanner of a part that makes a token of it. -/
theorem Starts.of_part {α : Type} (scan : Nat → List Char → Except Fault (Scan α))
    (token : α → Token) (hnarrow : c.utf8Size = 1)
    (heq : ∀ offset rest, scanToken? offset c rest
      = some ((scan offset rest).map fun s => ⟨token s.value, s.stop, s.rest⟩))
    (hwithin : ∀ offset rest, Within offset (c :: rest) (scan offset rest))
    (hcarries : ∀ {place offset rest rest'}, Shares place (offset + 1) rest rest' →
      Carries place (scan offset rest) (scan offset rest'))
    (htext : ∀ a, (token a).isText = (c == '\"')) (hmark : ∀ a, (token a).mark? = none) :
    Starts c fun offset rest =>
      (scan offset rest).map fun s => ⟨token s.value, s.stop, s.rest⟩ where
  narrow := hnarrow
  scanToken?_eq := heq
  within offset rest := (hwithin offset rest).map token
  carries h := (hcarries h).map token
  isText_eq hs := by
    obtain ⟨s, -, rfl⟩ := map_eq_ok hs
    exact htext s.value
  mark hs hm := by
    obtain ⟨s, -, rfl⟩ := map_eq_ok hs
    exact absurd (hmark s.value) hm

theorem narrow_of_all (h : cs.all (·.utf8Size == 1)) : ∀ d ∈ cs, d.utf8Size = 1 := by
  simpa using h

theorem starts_word {word : List Char} {token : Token} (hmark : mark? c = none)
    (hword : word? c = some (word, token)) :
    Starts c fun offset rest =>
      (scanWord (offset + 1) word rest).map fun s => ⟨token, s.stop, s.rest⟩ := by
  have hcases : c.utf8Size = 1 ∧ (∀ w ∈ word, w.utf8Size = 1)
      ∧ token.isText = (c == '\"') ∧ token.mark? = none := by
    unfold word? at hword
    split at hword
    · next hc =>
      cases hword
      subst hc
      exact ⟨rfl, narrow_of_all rfl, rfl, rfl⟩
    · split at hword
      · next hc =>
        cases hword
        subst hc
        exact ⟨rfl, narrow_of_all rfl, rfl, rfl⟩
      · split at hword
        · next hc =>
          cases hword
          subst hc
          exact ⟨rfl, narrow_of_all rfl, rfl, rfl⟩
        · cases hword
  obtain ⟨hnarrow, hletters, htext, htoken⟩ := hcases
  refine .of_part (fun offset rest => scanWord (offset + 1) word rest) (fun _ => token) hnarrow ?_
    (fun _ _ => (within_scanWord _ word _).of_behind) (carries_scanWord hletters)
    (fun _ => htext) fun _ => htoken
  intro offset rest
  simp only [scanToken?, hmark, hword]

theorem starts_quote : Starts '\"' fun offset rest =>
    (scanText (offset + 1) rest).map fun s => ⟨.text (String.ofList s.value), s.stop, s.rest⟩ :=
  .of_part (fun offset rest => scanText (offset + 1) rest) (fun cs => .text (String.ofList cs)) rfl
    (fun _ _ => rfl) (fun _ _ => (within_scanText _ _).of_behind) carries_scanText (fun _ => rfl)
    fun _ => rfl

theorem starts_minus : Starts '-' fun offset rest =>
    (scanNumber true (offset + 1) rest).map fun s => ⟨.number s.value, s.stop, s.rest⟩ :=
  .of_part (fun offset rest => scanNumber true (offset + 1) rest) .number rfl
    (fun _ _ => rfl) (fun _ _ => (within_scanNumber _ _ _).of_behind) (carries_scanNumber _)
    (fun _ => rfl) fun _ => rfl

theorem starts_digit (hmark : mark? c = none) (hword : word? c = none) (hquote : c ≠ '\"')
    (hminus : c ≠ '-') (hdigit : c.isDigit) : Starts c fun offset rest =>
      (scanNumber false offset (c :: rest)).map fun s => ⟨.number s.value, s.stop, s.rest⟩ := by
  have hnarrow := utf8Size_of_isDigit hdigit
  refine .of_part (fun offset rest => scanNumber false offset (c :: rest)) .number hnarrow ?_
    (fun _ _ => within_scanNumber _ _ _) ?_ (fun _ => (beq_false_of_ne hquote).symm) fun _ => rfl
  · intro offset rest
    simp only [scanToken?, hmark, hword, if_neg hquote, if_neg hminus, if_pos hdigit]
  · intro place offset rest rest' h
    rw [← hnarrow] at h
    exact carries_scanNumber false (.cons c h)

/-- A character starts tokens that are scanned in one way, or none. -/
theorem starts_or_none (c : Char) :
    (∃ scan, Starts c scan) ∨ ∀ offset rest, scanToken? offset c rest = none := by
  cases hmark : mark? c with
  | some m => exact .inl ⟨_, starts_mark hmark⟩
  | none =>
    cases hword : word? c with
    | some part => exact .inl ⟨_, starts_word hmark hword⟩
    | none =>
      by_cases hquote : c = '\"'
      · subst hquote
        exact .inl ⟨_, starts_quote⟩
      by_cases hminus : c = '-'
      · subst hminus
        exact .inl ⟨_, starts_minus⟩
      by_cases hdigit : c.isDigit
      · exact .inl ⟨_, starts_digit hmark hword hquote hminus hdigit⟩
      · refine .inr fun offset rest => ?_
        simp only [scanToken?, hmark, hword, if_neg hquote, if_neg hminus, if_neg hdigit]

/-! ## Tapes -/

namespace Tape

/-- The tape starts with a token that goes on behind the place. -/
inductive Unfinished (place start : Nat) (isText : Bool) : Tape → Prop where
  | token {stop : Nat} {value : Token} {rest : Tape} (hmark : value.mark? = none)
      (htext : value.isText = isText) (h : place < stop) :
      Unfinished place start isText (.token start stop value rest)
  | broken {fault : Fault} (h : place < fault.offset) :
      Unfinished place start isText (.broken start isText fault)

/-- Two tapes start alike for those who have read as far as the place. -/
inductive Looks (place : Nat) : Tape → Tape → Prop where
  | token {start stop : Nat} {value : Token} {rest rest' : Tape} :
      Looks place (.token start stop value rest) (.token start stop value rest')
  | broken {start : Nat} {isText : Bool} {fault : Fault} :
      Looks place (.broken start isText fault) (.broken start isText fault)
  | stray {start : Nat} : Looks place (.stray start) (.stray start)
  | cut {start : Nat} {isText : Bool} {t t' : Tape} (h : Unfinished place start isText t)
      (h' : Unfinished place start isText t') : Looks place t t'

/-- A place that is reported of what a tape starts with. -/
inductive Points : Tape → Nat → Prop where
  | start {t : Tape} : Points t t.start
  | peeked {t : Tape} : Points t t.peeked
  | stop {start stop : Nat} {value : Token} {rest : Tape} :
      Points (.token start stop value rest) stop
  | fault {start : Nat} {isText : Bool} {fault : Fault} :
      Points (.broken start isText fault) fault.offset

/-- The tape of a text whose first token was scanned. -/
def front (offset : Nat) (c : Char) : Except Fault (Scan Token) → Tape
  | .ok s => .token offset s.stop s.value (ofChars s.stop s.rest)
  | .error fault => .broken offset (c == '\"') fault

theorem ofChars_of_starts {scan : Nat → List Char → Except Fault (Scan Token)} (h : Starts c scan)
    (hblank : isBlank c = false) (offset : Nat) (rest : List Char) :
    ofChars offset (c :: rest) = front offset c (scan offset rest) := by
  have hscan := h.scanToken?_eq offset rest
  cases hx : scan offset rest with
  | ok s => exact ofChars_token hblank (hx ▸ hscan)
  | error fault => exact ofChars_broken hblank (hx ▸ hscan)

theorem ofChars_stray (h : ∀ offset rest, scanToken? offset c rest = none)
    (hblank : isBlank c = false) (offset : Nat) (rest : List Char) :
    ofChars offset (c :: rest) = .stray offset := by
  rw [ofChars, if_neg (by simp [hblank])]
  split
  · rfl
  · next hs =>
    rw [h] at hs
    cases hs
  · next hs =>
    rw [h] at hs
    cases hs

theorem Looks.symm {t t' : Tape} (h : Looks place t t') : Looks place t' t := by
  cases h with
  | token => exact .token
  | broken => exact .broken
  | stray => exact .stray
  | cut h h' => exact .cut h' h

/-- What is scanned ends behind the place. -/
def Passes (place : Nat) : Except Fault (Scan Token) → Prop
  | .ok s => place < s.stop
  | .error fault => place < fault.offset

theorem looks_front_of_not_passes {x x' : Except Fault (Scan Token)} (h : Carries place x x')
    (hx : ¬ Passes place x) : Looks place (front offset c x) (front offset c x') := by
  cases x with
  | ok s =>
    obtain ⟨rest', rfl, -⟩ := h (Nat.not_lt.1 hx)
    exact .token
  | error fault =>
    rw [h (Nat.not_lt.1 hx)]
    exact .broken

theorem unfinished_front {scan : Nat → List Char → Except Fault (Scan Token)} (h : Starts c scan)
    (hpasses : Passes place (scan offset rest))
    (hmark : ∀ s, scan offset rest = .ok s → s.value.mark? = none) :
    Unfinished place offset (c == '\"') (front offset c (scan offset rest)) := by
  cases hx : scan offset rest with
  | ok s =>
    rw [hx] at hpasses
    exact .token (hmark s hx) (h.isText_eq hx) hpasses
  | error fault =>
    rw [hx] at hpasses
    exact .broken hpasses

theorem looks_front {scan : Nat → List Char → Except Fault (Scan Token)} (h : Starts c scan)
    (hrest : Shares place (offset + 1) rest rest') :
    Looks place (front offset c (scan offset rest)) (front offset c (scan offset rest')) := by
  by_cases hx : Passes place (scan offset rest)
  · by_cases hx' : Passes place (scan offset rest')
    -- both go on behind the place; a mark cannot tell, since its first byte is all of it
    · by_cases hmark : ∃ s, scan offset rest = .ok s ∧ s.value.mark? ≠ none
      · obtain ⟨s, hs, hm⟩ := hmark
        rw [hs, h.mark hs hm rest']
        exact .token
      by_cases hmark' : ∃ s, scan offset rest' = .ok s ∧ s.value.mark? ≠ none
      · obtain ⟨s, hs, hm⟩ := hmark'
        rw [hs, h.mark hs hm rest]
        exact .token
      · refine .cut (unfinished_front h hx fun s hs => ?_) (unfinished_front h hx' fun s hs => ?_)
        · exact Decidable.byContradiction fun hm => hmark ⟨s, hs, hm⟩
        · exact Decidable.byContradiction fun hm => hmark' ⟨s, hs, hm⟩
    · exact (looks_front_of_not_passes (h.carries hrest.symm) hx').symm
  · exact looks_front_of_not_passes (h.carries hrest) hx

/-! ## Where tokens are -/

theorem exists_scan_eq {x : Except Fault (Scan Token)} (h : scanToken? offset c rest = some x) :
    ∃ scan, Starts c scan ∧ scan offset rest = x := by
  rcases starts_or_none c with ⟨scan, hscan⟩ | hnone
  · refine ⟨scan, hscan, ?_⟩
    rw [hscan.scanToken?_eq] at h
    exact Option.some.inj h
  · rw [hnone] at h
    cases h

theorem scanToken?_eq_none (h : scanToken? offset c rest = none) (offset' : Nat)
    (rest' : List Char) : scanToken? offset' c rest' = none := by
  rcases starts_or_none c with ⟨scan, hscan⟩ | hnone
  · rw [hscan.scanToken?_eq] at h
    cases h
  · exact hnone offset' rest'

theorem utf8Size_of_isBlank (h : isBlank c) : c.utf8Size = 1 := by
  have hall : ∀ d ∈ [' ', '\t', '\r', '\n'], d.utf8Size = 1 := narrow_of_all rfl
  exact hall c (isBlank_iff.1 h)

/-- A wide character starts no token. -/
theorem ofChars_of_isWide (h : IsWide c) (offset : Nat) (rest : List Char) :
    ofChars offset (c :: rest) = .stray offset := by
  have hblank : isBlank c = false := by
    rw [Bool.eq_false_iff]
    intro hblank
    have hnarrow := utf8Size_of_isBlank hblank
    unfold IsWide at h
    omega
  rcases starts_or_none c with ⟨scan, hscan⟩ | hnone
  · have hnarrow := hscan.narrow
    unfold IsWide at h
    omega
  · exact ofChars_stray hnone hblank offset rest

theorem bounds_front {x : Except Fault (Scan Token)} (hx : Within offset (c :: rest) x) {n : Nat}
    (hn : (front offset c x).Points n) : offset ≤ n ∧ n ≤ offset + Utf8.size (c :: rest) := by
  have hsize := Utf8.size_cons c rest
  have hpos := c.utf8Size_pos
  cases x with
  | ok s =>
    cases hn with
    | start => exact ⟨Nat.le_refl _, Nat.le_add_right _ _⟩
    | peeked => exact ⟨Nat.le_succ _, by simp only [front, peeked, start]; omega⟩
    | stop => exact ⟨hx.1, Nat.le_trans (Nat.le_add_right _ _) hx.2⟩
  | error fault =>
    cases hn with
    | start => exact ⟨Nat.le_refl _, Nat.le_add_right _ _⟩
    | peeked => exact ⟨Nat.le_succ _, by simp only [front, peeked, start]; omega⟩
    | fault => exact hx

/-- The tokens of a text stand in order, and every place that is reported of one
    lies in the text. -/
theorem bounds_of_ofChars {ts : List PlacedToken} {u : Tape} (h : ofChars offset cs = u.after ts) :
    offset ≤ u.start ∧ (∀ p ∈ ts, p.stop ≤ u.start)
      ∧ ∀ n, u.Points n → u.start ≤ n ∧ n ≤ offset + Utf8.size cs := by
  fun_induction ofChars offset cs generalizing ts with
  | case1 offset =>
    cases ts with
    | nil =>
      subst h
      refine ⟨Nat.le_refl _, List.forall_mem_nil _, fun n hn => ?_⟩
      cases hn <;> exact ⟨Nat.le_refl _, Nat.le_refl _⟩
    | cons p ts => cases h
  | case2 offset c rest hblank ih =>
    obtain ⟨hstart, hstops, hpoints⟩ := ih h
    have hsize := Utf8.size_cons c rest
    have hnarrow := utf8Size_of_isBlank hblank
    refine ⟨by omega, hstops, fun n hn => ?_⟩
    have hn := hpoints n hn
    omega
  | case3 offset c rest hblank hscan =>
    have hsize := Utf8.size_cons c rest
    have hpos := c.utf8Size_pos
    cases ts with
    | nil =>
      subst h
      refine ⟨Nat.le_refl _, List.forall_mem_nil _, fun n hn => ?_⟩
      cases hn with
      | start => exact ⟨Nat.le_refl _, Nat.le_add_right _ _⟩
      | peeked => exact ⟨Nat.le_succ _, by simp only [peeked, start]; omega⟩
    | cons p ts => cases h
  | case4 offset c rest hblank fault hscan =>
    obtain ⟨scan, hstarts, hx⟩ := exists_scan_eq hscan
    have hwithin := hx ▸ hstarts.within offset rest
    cases ts with
    | nil =>
      subst h
      exact ⟨Nat.le_refl _, List.forall_mem_nil _, fun n hn => bounds_front hwithin hn⟩
    | cons p ts => cases h
  | case5 offset c rest hblank s hscan hlength ih =>
    obtain ⟨scan, hstarts, hx⟩ := exists_scan_eq hscan
    have hwithin := hx ▸ hstarts.within offset rest
    cases ts with
    | nil =>
      subst h
      exact ⟨Nat.le_refl _, List.forall_mem_nil _, fun n hn => bounds_front hwithin hn⟩
    | cons p ts =>
      injection h with _ hstop _ htail
      obtain ⟨hstart, hstops, hpoints⟩ := ih htail
      obtain ⟨hle, hle'⟩ := hwithin
      refine ⟨by omega, List.forall_mem_cons.2 ⟨by omega, hstops⟩, fun n hn => ?_⟩
      have hn := hpoints n hn
      omega

/-- What was read of one text stands in the other, and what comes next looks the same. -/
theorem exists_looks_of_shares {ts : List PlacedToken} {u : Tape}
    (hshares : Shares place offset cs cs') (h : ofChars offset cs = u.after ts)
    (hstops : ∀ p ∈ ts, p.stop ≤ place) (hstart : u.start ≤ place) : ∃ u', ofChars offset cs' = u'.after ts ∧ Looks place u u' := by
  have hoffset : offset ≤ place := Nat.le_trans (bounds_of_ofChars h).1 hstart
  fun_induction ofChars offset cs generalizing ts cs' with
  | case1 offset => exact absurd hshares.lt_of_nil (by omega)
  | case2 offset c rest hblank ih =>
    obtain ⟨rest', rfl, hrest⟩ := hshares.uncons_narrow (by omega) (utf8Size_of_isBlank hblank)
    rw [ofChars_blank hblank]
    exact ih hrest h hstops (Nat.le_trans (bounds_of_ofChars h).1 hstart)
  | case3 offset c rest hblank hscan =>
    have hchar : isBlank c = false := Bool.not_eq_true _ ▸ hblank
    cases ts with
    | nil =>
      subst h
      obtain ⟨c', rest', rfl, ⟨rfl, -⟩ | ⟨-, hwide, -⟩⟩ := hshares.uncons (by omega)
      · exact ⟨_, ofChars_stray (scanToken?_eq_none hscan) hchar offset rest', .stray⟩
      · exact ⟨_, ofChars_of_isWide hwide offset rest', .stray⟩
    | cons p ts => cases h
  | case4 offset c rest hblank fault hscan =>
    have hchar : isBlank c = false := Bool.not_eq_true _ ▸ hblank
    obtain ⟨scan, hstarts, hx⟩ := exists_scan_eq hscan
    cases ts with
    | nil =>
      subst h
      obtain ⟨rest', rfl, hrest⟩ := hshares.uncons_narrow (by omega) hstarts.narrow
      have hlooks := looks_front hstarts hrest
      rw [hx] at hlooks
      exact ⟨_, ofChars_of_starts hstarts hchar offset rest', hlooks⟩
    | cons p ts => cases h
  | case5 offset c rest hblank s hscan hlength ih =>
    have hchar : isBlank c = false := Bool.not_eq_true _ ▸ hblank
    obtain ⟨scan, hstarts, hx⟩ := exists_scan_eq hscan
    obtain ⟨rest', rfl, hrest⟩ := hshares.uncons_narrow (by omega) hstarts.narrow
    cases ts with
    | nil =>
      subst h
      have hlooks := looks_front hstarts hrest
      rw [hx] at hlooks
      exact ⟨_, ofChars_of_starts hstarts hchar offset rest', hlooks⟩
    | cons p ts =>
      injection h with hplace hstop hvalue htail
      obtain ⟨hpstop, hstops⟩ := List.forall_mem_cons.1 hstops
      -- the token was read before the place, so the other text has it too
      have hcarries := hstarts.carries hrest
      rw [hx] at hcarries
      obtain ⟨after', hx', hafter⟩ := hcarries (hstop ▸ hpstop)
      obtain ⟨u', hu', hlooks⟩ := ih hafter htail hstops (hstop ▸ hpstop)
      refine ⟨u', ?_, hlooks⟩
      rw [ofChars_of_starts hstarts hchar, hx', front, after_cons, ← hplace, ← hstop, ← hvalue]
      exact congrArg _ hu'

end Tape

end ClassAtlas.Manifest
