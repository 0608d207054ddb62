import ClassAtlas.Text.Utf8

/-! # Bytes that are text

    Reading is the inverse of writing: the bytes of a text read as that text,
    and bytes that read as a text are the bytes of it
    (`Utf8.decode?_eq_some_iff`).  So a byte sequence is text just if some text
    is written with it.

    Between writing and reading stands the syntax of one character, `Spells`:
    one byte to four, of which the first says how many follow and, at the edges
    of its range, which values the second may have.
-/

namespace ClassAtlas.Utf8

/-! ## Counting bytes -/

theorem size_cons (c : Char) (cs : List Char) : size (c :: cs) = c.utf8Size + size cs := rfl

theorem size_singleton (c : Char) : size [c] = c.utf8Size := rfl

@[simp]
theorem size_append (front rest : List Char) : size (front ++ rest) = size front + size rest := by
  induction front with
  | nil => simp [size]
  | cons c front ih => rw [List.cons_append, size_cons, size_cons, ih, Nat.add_assoc]

/-- No character takes less than a byte. -/
theorem length_le_size (cs : List Char) : cs.length ≤ size cs := by
  induction cs with
  | nil => exact Nat.le_refl 0
  | cons c cs ih =>
    have hc := c.utf8Size_pos
    rw [List.length_cons, size_cons]
    omega

theorem length_encodeChar (c : Char) : (encodeChar c).length = c.utf8Size :=
  String.length_utf8EncodeChar c

theorem head?_encodeChar_append (c : Char) (bs : Bytes) :
    (encodeChar c ++ bs).head? = (encodeChar c).head? := by
  cases hbytes : encodeChar c with
  | nil =>
    have hlength := length_encodeChar c
    rw [hbytes] at hlength
    exact absurd hlength (Nat.ne_of_lt c.utf8Size_pos)
  | cons b rest => rfl

theorem length_flatMap_encodeChar (cs : List Char) : (cs.flatMap encodeChar).length = size cs := by
  induction cs with
  | nil => rfl
  | cons c cs ih =>
    rw [List.flatMap_cons, List.length_append, ih, length_encodeChar, size_cons]

/-! ## The syntax of a character -/

/-- A byte that continues a character. -/
def IsTail (b : UInt8) : Prop := 0x80 ≤ b.toNat ∧ b.toNat ≤ 0xBF

/-- The six bits of a byte that continues a character. -/
def tailBits (b : UInt8) : Nat := b.toNat - 0x80

/-- The bytes of one character with the number of the character. -/
inductive Spells : Bytes → Nat → Prop where
  | one {a : UInt8} (ha : a.toNat < 0x80) : Spells [a] a.toNat
  | two {a b : UInt8} (ha : 0xC2 ≤ a.toNat) (ha' : a.toNat < 0xE0) (hb : IsTail b) :
      Spells [a, b] ((a.toNat - 0xC0) * 64 + tailBits b)
  | three {a b c : UInt8} (ha : 0xE0 ≤ a.toNat) (ha' : a.toNat < 0xF0) (hb : IsTail b)
      -- no overlong form after E0, no surrogate after ED
      (hlow : a.toNat = 0xE0 → 0xA0 ≤ b.toNat) (hhigh : a.toNat = 0xED → b.toNat ≤ 0x9F)
      (hc : IsTail c) :
      Spells [a, b, c] (((a.toNat - 0xE0) * 64 + tailBits b) * 64 + tailBits c)
  | four {a b c d : UInt8} (ha : 0xF0 ≤ a.toNat) (ha' : a.toNat < 0xF5) (hb : IsTail b)
      -- no overlong form after F0, nothing beyond the last character after F4
      (hlow : a.toNat = 0xF0 → 0x90 ≤ b.toNat) (hhigh : a.toNat = 0xF4 → b.toNat ≤ 0x8F)
      (hc : IsTail c) (hd : IsTail d) :
      Spells [a, b, c, d]
        ((((a.toNat - 0xF0) * 64 + tailBits b) * 64 + tailBits c) * 64 + tailBits d)

/-! ## Writing -/

theorem isTail_ofNat (n : Nat) : IsTail (UInt8.ofNat (n % 64 + 128)) := by
  unfold IsTail
  rw [UInt8.toNat_ofNat']
  omega

theorem tailBits_ofNat (n : Nat) : tailBits (UInt8.ofNat (n % 64 + 128)) = n % 64 := by
  unfold tailBits
  rw [UInt8.toNat_ofNat']
  omega

/-- What is written for a character follows the syntax. -/
theorem spells_encodeChar (c : Char) : Spells (encodeChar c) c.toNat := by
  have hvalid : c.toNat < 0xD800 ∨ 0xDFFF < c.toNat ∧ c.toNat < 0x110000 := c.valid
  unfold encodeChar String.utf8EncodeChar
  have hval : c.val.toNat = c.toNat := rfl
  rw [hval]
  generalize c.toNat = v at hvalid ⊢
  by_cases h1 : v ≤ 127
  · have ha : (UInt8.ofNat v).toNat = v := UInt8.toNat_ofNat_of_lt' (show v < 256 by omega)
    have hspells := Spells.one (a := UInt8.ofNat v) (by omega)
    rw [if_pos h1]
    rwa [ha] at hspells
  rw [if_neg h1]
  by_cases h2 : v ≤ 2047
  · have ha := UInt8.toNat_ofNat_of_lt' (show v / 64 % 32 + 192 < 256 by omega)
    have hspells := Spells.two (by omega) (by omega) (isTail_ofNat v) (a := .ofNat (v / 64 % 32 + 192))
    rw [ha, tailBits_ofNat] at hspells
    have hv : (v / 64 % 32 + 192 - 192) * 64 + v % 64 = v := by omega
    rw [if_pos h2]
    rwa [hv] at hspells
  rw [if_neg h2]
  by_cases h3 : v ≤ 65535
  · have ha := UInt8.toNat_ofNat_of_lt' (show v / 4096 % 16 + 224 < 256 by omega)
    have hb := UInt8.toNat_ofNat_of_lt' (show v / 64 % 64 + 128 < 256 by omega)
    have hspells := Spells.three (by omega) (by omega) (isTail_ofNat (v / 64)) (by omega) (by omega)
      (isTail_ofNat v) (a := .ofNat (v / 4096 % 16 + 224))
    rw [ha, tailBits_ofNat, tailBits_ofNat] at hspells
    have hv : ((v / 4096 % 16 + 224 - 224) * 64 + v / 64 % 64) * 64 + v % 64 = v := by omega
    rw [if_pos h3]
    rwa [hv] at hspells
  · have ha := UInt8.toNat_ofNat_of_lt' (show v / 262144 % 8 + 240 < 256 by omega)
    have hb := UInt8.toNat_ofNat_of_lt' (show v / 4096 % 64 + 128 < 256 by omega)
    have hspells := Spells.four (by omega) (by omega) (isTail_ofNat (v / 4096)) (by omega) (by omega)
      (isTail_ofNat (v / 64)) (isTail_ofNat v) (a := .ofNat (v / 262144 % 8 + 240))
    rw [ha, tailBits_ofNat, tailBits_ofNat, tailBits_ofNat] at hspells
    have hv : (((v / 262144 % 8 + 240 - 240) * 64 + v / 4096 % 64) * 64 + v / 64 % 64) * 64 + v % 64
        = v := by omega
    rw [if_neg h3]
    rwa [hv] at hspells

theorem Spells.eq {bs : Bytes} {n m : Nat} (h : Spells bs n) (h' : Spells bs m) : n = m := by
  cases h <;> cases h' <;> rfl

theorem encodeChar_injective {c d : Char} (h : encodeChar c = encodeChar d) : c = d := by
  have hd := spells_encodeChar d
  rw [← h] at hd
  exact Char.toNat_inj.1 ((spells_encodeChar c).eq hd)

/-- The first byte of a character tells how many it takes. -/
theorem Spells.length_eq {b : UInt8} {bs bs' : Bytes} {n m : Nat} (h : Spells (b :: bs) n)
    (h' : Spells (b :: bs') m) : bs.length = bs'.length := by
  cases h <;> cases h' <;> first | rfl | omega

theorem utf8Size_eq_of_head {c d : Char} (h : (encodeChar c).head? = (encodeChar d).head?) :
    c.utf8Size = d.utf8Size := by
  rw [← length_encodeChar, ← length_encodeChar]
  have hc := spells_encodeChar c
  have hd := spells_encodeChar d
  cases hbytes : encodeChar c with
  | nil =>
    rw [hbytes] at hc
    cases hc
  | cons b bs =>
    rw [hbytes, List.head?_cons] at h
    obtain ⟨bs', hbytes'⟩ := List.head?_eq_some_iff.1 h.symm
    rw [hbytes] at hc
    rw [hbytes'] at hd
    rw [hbytes', List.length_cons, List.length_cons, hc.length_eq hd]

/-- The syntax leaves one way to write a character. -/
theorem Spells.encodeChar_eq {bs : Bytes} {n : Nat} (h : Spells bs n) :
    encodeChar (Char.ofNat n) = bs := by
  have hwrite : ∀ v : Nat, v.isValidChar → encodeChar (Char.ofNat v) =
      if v ≤ 127 then [UInt8.ofNat v]
      else if v ≤ 2047 then [UInt8.ofNat (v / 64 % 32 + 192), UInt8.ofNat (v % 64 + 128)]
      else if v ≤ 65535 then
        [UInt8.ofNat (v / 4096 % 16 + 224), UInt8.ofNat (v / 64 % 64 + 128), UInt8.ofNat (v % 64 + 128)]
      else
        [UInt8.ofNat (v / 262144 % 8 + 240), UInt8.ofNat (v / 4096 % 64 + 128),
          UInt8.ofNat (v / 64 % 64 + 128), UInt8.ofNat (v % 64 + 128)] := by
    intro v hv
    have hval : (Char.ofNat v).val.toNat = v := by
      rw [Char.ofNat, dif_pos hv]
      rfl
    unfold encodeChar String.utf8EncodeChar
    rw [hval]
  have hbyte : ∀ (a : UInt8) (m : Nat), m = a.toNat → UInt8.ofNat m = a := by
    rintro a m rfl
    exact UInt8.ofNat_toNat
  cases h with
  | one ha =>
    rw [hwrite _ (by left; omega), if_pos (by omega), hbyte _ _ rfl]
  | @two a b ha ha' hb =>
    unfold IsTail at hb
    unfold tailBits
    rw [hwrite _ (by left; omega), if_neg (by omega), if_pos (by omega), hbyte a _ (by omega),
      hbyte b _ (by omega)]
  | @three a b c ha ha' hb hlow hhigh hc =>
    unfold IsTail at hb hc
    unfold tailBits
    rw [hwrite _ (by unfold Nat.isValidChar; omega), if_neg (by omega), if_neg (by omega),
      if_pos (by omega), hbyte a _ (by omega), hbyte b _ (by omega), hbyte c _ (by omega)]
  | @four a b c d ha ha' hb hlow hhigh hc hd =>
    unfold IsTail at hb hc hd
    unfold tailBits
    rw [hwrite _ (by unfold Nat.isValidChar; omega), if_neg (by omega), if_neg (by omega),
      if_neg (by omega), hbyte a _ (by omega), hbyte b _ (by omega), hbyte c _ (by omega),
      hbyte d _ (by omega)]

/-! ## Reading -/

/-- The bytes after a state read as these characters, and none of them is lost. -/
def Reads (state : State) (bs : Bytes) (cs : List Char) : Prop :=
  (piecesFrom state bs).mapM Piece.char? = some cs

theorem mapM_char_cons_iff {c : Char} {pieces : List Piece} {cs : List Char} :
    (.char c :: pieces).mapM Piece.char? = some cs
      ↔ ∃ later, cs = c :: later ∧ pieces.mapM Piece.char? = some later := by
  rw [List.mapM_cons]
  cases pieces.mapM Piece.char? with
  | none => simp [Piece.char?]
  | some later => simp [Piece.char?, eq_comm]

theorem mapM_broken_cons {pieces : List Piece} {cs : List Char} :
    ¬ (.broken :: pieces).mapM Piece.char? = some cs := by
  rw [List.mapM_cons]
  simp [Piece.char?]

theorem reads_start_nil_iff {cs : List Char} : Reads .start [] cs ↔ cs = [] := by
  simp [Reads, piecesFrom, eq_comm]

/-- The last byte of a character completes it. -/
theorem reads_inside_last_iff {low high : UInt8} {value : Nat} {bs : Bytes} {cs : List Char} :
    Reads (.inside 0 low high value) bs cs
      ↔ ∃ b rest later, bs = b :: rest ∧ (low.toNat ≤ b.toNat ∧ b.toNat ≤ high.toNat)
          ∧ cs = Char.ofNat (value * 64 + tailBits b) :: later ∧ Reads .start rest later := by
  cases bs with
  | nil => simp [Reads, piecesFrom, Piece.char?]
  | cons b bs =>
    simp only [Reads, piecesFrom, step, ← UInt8.le_iff_toNat_le]
    by_cases hb : low ≤ b ∧ b ≤ high
    · rw [if_pos hb]
      simp only [List.singleton_append, mapM_char_cons_iff]
      constructor
      · rintro ⟨later, hcs, hrest⟩
        exact ⟨b, bs, later, rfl, hb, hcs, hrest⟩
      · rintro ⟨b', rest, later, hbs, -, hcs, hrest⟩
        cases hbs
        exact ⟨later, hcs, hrest⟩
    · rw [if_neg hb]
      constructor
      · intro h
        exact absurd h mapM_broken_cons
      · rintro ⟨b', rest, later, hbs, hb', -⟩
        cases hbs
        exact absurd hb' hb

/-- A byte inside a character adds six bits to it. -/
theorem reads_inside_more_iff {more : Nat} {low high : UInt8} {value : Nat} {bs : Bytes}
    {cs : List Char} :
    Reads (.inside (more + 1) low high value) bs cs
      ↔ ∃ b rest, bs = b :: rest ∧ (low.toNat ≤ b.toNat ∧ b.toNat ≤ high.toNat)
          ∧ Reads (.inside more 0x80 0xBF (value * 64 + tailBits b)) rest cs := by
  cases bs with
  | nil => simp [Reads, piecesFrom, Piece.char?]
  | cons b bs =>
    simp only [Reads, piecesFrom, step, ← UInt8.le_iff_toNat_le]
    by_cases hb : low ≤ b ∧ b ≤ high
    · rw [if_pos hb]
      constructor
      · intro h
        exact ⟨b, bs, rfl, hb, h⟩
      · rintro ⟨b', rest, hbs, -, hrest⟩
        cases hbs
        exact hrest
    · rw [if_neg hb]
      constructor
      · intro h
        exact absurd h mapM_broken_cons
      · rintro ⟨b', rest, hbs, hb', -⟩
        cases hbs
        exact absurd hb' hb

/-- What the first byte of a character yields, range by range. -/
theorem first_eq (b : UInt8) :
    first b =
      if b.toNat < 0x80 then ([.char (Char.ofNat b.toNat)], .start)
      else if b.toNat < 0xC2 then ([.broken], .start)
      else if b.toNat < 0xE0 then ([], .inside 0 0x80 0xBF (b.toNat - 0xC0))
      else if b.toNat < 0xF0 then
        ([], .inside 1 (if b.toNat = 0xE0 then 0xA0 else 0x80) (if b.toNat = 0xED then 0x9F else 0xBF)
          (b.toNat - 0xE0))
      else if b.toNat < 0xF5 then
        ([], .inside 2 (if b.toNat = 0xF0 then 0x90 else 0x80) (if b.toNat = 0xF4 then 0x8F else 0xBF)
          (b.toNat - 0xF0))
      else ([.broken], .start) := by
  have hcases : ∀ m : UInt8, (b = m ↔ b.toNat = m.toNat) := fun m => UInt8.toNat_inj.symm
  simp only [first, UInt8.le_iff_toNat_le, UInt8.lt_iff_toNat_lt, hcases, UInt8.reduceToNat]
  simp only [← Nat.lt_succ_iff, Nat.succ_eq_add_one, Nat.reduceAdd]

theorem reads_start_cons_iff {b : UInt8} {bs : Bytes} {cs : List Char} :
    Reads .start (b :: bs) cs
      ↔ ((first b).1 ++ piecesFrom (first b).2 bs).mapM Piece.char? = some cs := Iff.rfl

/-- A character that follows the syntax is read. -/
theorem Spells.reads {front rest : Bytes} {n : Nat} {later : List Char} (h : Spells front n)
    (hrest : Reads .start rest later) : Reads .start (front ++ rest) (Char.ofNat n :: later) := by
  cases h with
  | one ha =>
    rw [List.singleton_append, reads_start_cons_iff, first_eq, if_pos ha]
    exact mapM_char_cons_iff.2 ⟨later, rfl, hrest⟩
  | @two a b ha ha' hb =>
    rw [List.cons_append, reads_start_cons_iff, first_eq, if_neg (by omega), if_neg (by omega),
      if_pos ha']
    exact reads_inside_last_iff.2 ⟨b, rest, later, rfl, hb, rfl, hrest⟩
  | @three a b c ha ha' hb hlow hhigh hc =>
    rw [List.cons_append, reads_start_cons_iff, first_eq, if_neg (by omega), if_neg (by omega),
      if_neg (by omega), if_pos ha']
    refine reads_inside_more_iff.2 ⟨b, [c] ++ rest, rfl, ?_, ?_⟩
    · unfold IsTail at hb
      split <;> split <;> simp only [UInt8.reduceToNat] <;> omega
    · exact reads_inside_last_iff.2 ⟨c, rest, later, rfl, hc, rfl, hrest⟩
  | @four a b c d ha ha' hb hlow hhigh hc hd =>
    rw [List.cons_append, reads_start_cons_iff, first_eq, if_neg (by omega), if_neg (by omega),
      if_neg (by omega), if_neg (by omega), if_pos ha']
    refine reads_inside_more_iff.2 ⟨b, [c, d] ++ rest, rfl, ?_, ?_⟩
    · unfold IsTail at hb
      split <;> split <;> simp only [UInt8.reduceToNat] <;> omega
    · refine reads_inside_more_iff.2 ⟨c, [d] ++ rest, rfl, hc, ?_⟩
      exact reads_inside_last_iff.2 ⟨d, rest, later, rfl, hd, rfl, hrest⟩

/-- What is read starts with a character that follows the syntax. -/
theorem exists_spells_of_reads {b : UInt8} {bs : Bytes} {cs : List Char}
    (h : Reads .start (b :: bs) cs) :
    ∃ front n rest later, b :: bs = front ++ rest ∧ Spells front n ∧ cs = Char.ofNat n :: later
      ∧ Reads .start rest later := by
  rw [reads_start_cons_iff, first_eq] at h
  split at h
  · next h1 =>
    obtain ⟨later, hcs, hrest⟩ := mapM_char_cons_iff.1 h
    exact ⟨[b], b.toNat, bs, later, rfl, .one h1, hcs, hrest⟩
  split at h
  · exact absurd h mapM_broken_cons
  split at h
  · next h2 h3 =>
    obtain ⟨c, rest, later, rfl, hc, hcs, hrest⟩ := reads_inside_last_iff.1 h
    exact ⟨[b, c], _, rest, later, rfl, .two (by omega) h3 hc, hcs, hrest⟩
  split at h
  · next h3 h4 =>
    obtain ⟨c, rest, rfl, hc, hlast⟩ := reads_inside_more_iff.1 h
    obtain ⟨d, rest, later, rfl, hd, hcs, hrest⟩ := reads_inside_last_iff.1 hlast
    have hrange : IsTail c ∧ (b.toNat = 0xE0 → 0xA0 ≤ c.toNat) ∧ (b.toNat = 0xED → c.toNat ≤ 0x9F) := by
      unfold IsTail
      split at hc <;> split at hc <;> simp only [UInt8.reduceToNat] at hc <;> omega
    exact ⟨[b, c, d], _, rest, later, rfl,
      .three (by omega) h4 hrange.1 hrange.2.1 hrange.2.2 hd, hcs, hrest⟩
  split at h
  · next h4 h5 =>
    obtain ⟨c, rest, rfl, hc, hmore⟩ := reads_inside_more_iff.1 h
    obtain ⟨d, rest, rfl, hd, hlast⟩ := reads_inside_more_iff.1 hmore
    obtain ⟨e, rest, later, rfl, he, hcs, hrest⟩ := reads_inside_last_iff.1 hlast
    have hrange : IsTail c ∧ (b.toNat = 0xF0 → 0x90 ≤ c.toNat) ∧ (b.toNat = 0xF4 → c.toNat ≤ 0x8F) := by
      unfold IsTail
      split at hc <;> split at hc <;> simp only [UInt8.reduceToNat] at hc <;> omega
    exact ⟨[b, c, d, e], _, rest, later, rfl,
      .four (by omega) h5 hrange.1 hrange.2.1 hrange.2.2 hd he, hcs, hrest⟩
  · exact absurd h mapM_broken_cons

/-- The bytes that read as some characters are what is written for them. -/
theorem reads_iff {bs : Bytes} {cs : List Char} : Reads .start bs cs ↔ bs = cs.flatMap encodeChar := by
  induction cs generalizing bs with
  | nil =>
    cases bs with
    | nil => exact ⟨fun _ => rfl, fun _ => reads_start_nil_iff.2 rfl⟩
    | cons b bs =>
      constructor
      · intro h
        obtain ⟨_, _, _, _, -, -, hcs, -⟩ := exists_spells_of_reads h
        cases hcs
      · intro h
        cases h
  | cons c cs ih =>
    constructor
    · intro h
      cases bs with
      | nil => exact absurd (reads_start_nil_iff.1 h) (List.cons_ne_nil c cs)
      | cons b bs =>
        obtain ⟨front, n, rest, later, hbs, hfront, hcs, hrest⟩ := exists_spells_of_reads h
        cases hcs
        rw [hbs, List.flatMap_cons, hfront.encodeChar_eq, ← ih.1 hrest]
    · rintro rfl
      rw [List.flatMap_cons]
      have hreads := (spells_encodeChar c).reads (ih.2 rfl)
      rwa [Char.ofNat_toNat] at hreads

/-- Bytes read as a text just if they are its bytes. -/
theorem decode?_eq_some_iff {bs : Bytes} {s : String} : decode? bs = some s ↔ encode s = bs := by
  unfold decode? encode pieces
  rw [Option.map_eq_some_iff]
  constructor
  · rintro ⟨cs, hcs, rfl⟩
    rw [String.toList_ofList]
    exact (reads_iff.1 hcs).symm
  · intro h
    exact ⟨s.toList, reads_iff.2 h.symm, String.ofList_toList⟩

/-- Texts with the same bytes are the same. -/
theorem encode_injective {s t : String} (h : encode s = encode t) : s = t := by
  have hdecode : decode? (encode s) = some t := decode?_eq_some_iff.2 h.symm
  rw [decode?_eq_some_iff.2 rfl] at hdecode
  exact Option.some.inj hdecode

/-- Bytes are text just if a text is written with them. -/
theorem isSome_decode?_iff {bs : Bytes} : (decode? bs).isSome ↔ ∃ s, encode s = bs := by
  simp only [Option.isSome_iff_exists, decode?_eq_some_iff]

end ClassAtlas.Utf8
