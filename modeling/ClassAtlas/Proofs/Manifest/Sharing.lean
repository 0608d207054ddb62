import ClassAtlas.Proofs.Manifest.Lexing
import ClassAtlas.Proofs.Text.Utf8

/-! # Scanning texts that begin alike

    A scanner looks at one byte at most beyond those that it reports.  So if two
    texts share their bytes up to a place and the byte after it, what is scanned
    up to that place in one of them is scanned in the other (`Carries`).

    The place may lie inside a character, of which the texts then share the
    first bytes only.  Whatever the scanners look for is written with one byte,
    so they cannot tell two such characters apart.
-/

namespace ClassAtlas.Manifest

/-! ## Texts that begin alike -/

/-- The character takes several bytes. -/
def IsWide (c : Char) : Prop := 1 < c.utf8Size

theorem IsWide.ne {c d : Char} (h : IsWide c) (hd : d.utf8Size = 1) : c ≠ d := by
  rintro rfl
  unfold IsWide at h
  omega

theorem utf8Size_of_not_isWide {c : Char} (h : ¬ IsWide c) : c.utf8Size = 1 := by
  have hpos := c.utf8Size_pos
  unfold IsWide at h
  omega

/-- Characters that follow `offset` bytes of two texts, which share the bytes
    before the place and the byte after it. -/
inductive Shares (place : Nat) : Nat → List Char → List Char → Prop where
  /-- Behind the place the texts may differ. -/
  | beyond {offset : Nat} {cs cs' : List Char} (h : place < offset) : Shares place offset cs cs'
  | cons {offset : Nat} {cs cs' : List Char} (c : Char)
      (h : Shares place (offset + c.utf8Size) cs cs') : Shares place offset (c :: cs) (c :: cs')
  /-- The place lies inside two characters that need not be the same. -/
  | inside {offset : Nat} {c c' : Char} {cs cs' : List Char} (hc : IsWide c) (hc' : IsWide c')
      (h : place < offset + c.utf8Size) (h' : place < offset + c'.utf8Size) :
      Shares place offset (c :: cs) (c' :: cs')

variable {α β : Type} {place offset : Nat} {c : Char} {cs cs' : List Char}

namespace Shares

theorem symm (h : Shares place offset cs cs') : Shares place offset cs' cs := by
  induction h with
  | beyond h => exact .beyond h
  | cons c _ ih => exact .cons c ih
  | inside hc hc' h h' => exact .inside hc' hc h' h

/-- Texts with the same bytes up to a place and behind it one more. -/
theorem of_take_eq {n : Nat} (h : (cs'.flatMap Utf8.encodeChar).take (n + 1)
    = (cs.flatMap Utf8.encodeChar).take (n + 1)) (hn : n < Utf8.size cs) (offset : Nat) :
    Shares (offset + n) offset cs cs' := by
  induction cs generalizing n offset cs' with
  | nil => exact absurd hn (Nat.not_lt_zero n)
  | cons c cs ih =>
    rw [Utf8.size_cons] at hn
    have hpos := c.utf8Size_pos
    have hlength := Utf8.length_encodeChar c
    rw [List.flatMap_cons] at h
    cases cs' with
    | nil =>
      have hzero := congrArg List.length h
      simp only [List.flatMap_nil, List.take_nil, List.length_nil, List.length_take,
        List.length_append, hlength] at hzero
      omega
    | cons c' cs' =>
      rw [List.flatMap_cons] at h
      -- the first byte is shared, and it tells how many the character takes
      have hsize : c'.utf8Size = c.utf8Size := by
        apply Utf8.utf8Size_eq_of_head
        have hhead := congrArg List.head? h
        rwa [List.head?_take, List.head?_take, if_neg (Nat.succ_ne_zero n),
          Utf8.head?_encodeChar_append, Utf8.head?_encodeChar_append] at hhead
      have hlength' := Utf8.length_encodeChar c'
      by_cases hall : c.utf8Size ≤ n + 1
      · have htake : (Utf8.encodeChar c).take (n + 1) = Utf8.encodeChar c :=
          List.take_of_length_le (by omega)
        have htake' : (Utf8.encodeChar c').take (n + 1) = Utf8.encodeChar c' :=
          List.take_of_length_le (by omega)
        rw [List.take_append, List.take_append, htake, htake', hlength, hlength', hsize] at h
        obtain ⟨hchar, hrest⟩ := List.append_inj h (by omega)
        rw [Utf8.encodeChar_injective hchar]
        apply Shares.cons
        by_cases hlast : n < c.utf8Size
        · exact .beyond (by omega)
        · obtain ⟨m, rfl⟩ := Nat.exists_eq_add_of_le (Nat.not_lt.1 hlast)
          rw [Nat.add_assoc, Nat.add_sub_cancel_left] at hrest
          rw [← Nat.add_assoc]
          exact ih hrest (by omega) _
      · -- the place lies inside the character
        exact .inside (by unfold IsWide; omega) (by unfold IsWide; omega) (by omega) (by omega)

/-- A text that is shared up to a place does not end before it. -/
theorem lt_of_nil (h : Shares place offset [] cs') : place < offset := by
  cases h with
  | beyond h => exact h

/-- Before the place both go on. -/
theorem isEmpty_eq (h : Shares place offset cs cs') (hoffset : offset ≤ place) :
    cs.isEmpty = false ∧ cs'.isEmpty = false := by
  constructor
  · cases cs with
    | nil => exact absurd h.lt_of_nil (by omega)
    | cons c cs => rfl
  · cases cs' with
    | nil => exact absurd h.symm.lt_of_nil (by omega)
    | cons c cs' => rfl

/-- The place lies in the text. -/
theorem lt_size (h : Shares place offset cs cs') : place < offset + Utf8.size cs := by
  induction h with
  | beyond h => exact Nat.lt_add_right _ h
  | cons c _ ih =>
    rw [Utf8.size_cons]
    omega
  | inside hc hc' h h' =>
    rw [Utf8.size_cons]
    omega

/-- Either the next character is the same, or the place lies inside it. -/
theorem uncons (h : Shares place offset (c :: cs) cs') (hoffset : offset ≤ place) :
    ∃ c' rest', cs' = c' :: rest'
      ∧ (c' = c ∧ Shares place (offset + c.utf8Size) cs rest'
        ∨ IsWide c ∧ IsWide c' ∧ place < offset + c.utf8Size) := by
  cases h with
  | beyond h => omega
  | cons c h => exact ⟨c, _, rfl, .inl ⟨rfl, h⟩⟩
  | inside hc hc' h h' => exact ⟨_, _, rfl, .inr ⟨hc, hc', h⟩⟩

/-- A character of one byte is the same. -/
theorem uncons_narrow (h : Shares place offset (c :: cs) cs') (hoffset : offset ≤ place)
    (hc : c.utf8Size = 1) : ∃ rest', cs' = c :: rest' ∧ Shares place (offset + 1) cs rest' := by
  obtain ⟨c', rest', rfl, ⟨rfl, hrest⟩ | ⟨hwide, -⟩⟩ := h.uncons hoffset
  · exact ⟨rest', rfl, hc ▸ hrest⟩
  · exact absurd hwide (by unfold IsWide; omega)

/-- So are several of them. -/
theorem append_narrow {front rest : List Char} (h : Shares place offset (front ++ rest) cs')
    (hplace : offset + front.length ≤ place + 1) (hfront : ∀ c ∈ front, c.utf8Size = 1) :
    ∃ rest', cs' = front ++ rest' ∧ Shares place (offset + front.length) rest rest' := by
  induction front generalizing offset cs' with
  | nil => exact ⟨cs', rfl, h⟩
  | cons c front ih =>
    obtain ⟨hc, hfront⟩ := List.forall_mem_cons.1 hfront
    rw [List.length_cons] at hplace
    obtain ⟨cs'', rfl, hrest⟩ := h.uncons_narrow (by omega) hc
    obtain ⟨rest', rfl, hshares⟩ := ih hrest (by omega) hfront
    refine ⟨rest', rfl, ?_⟩
    rw [List.length_cons]
    rwa [Nat.add_assoc, Nat.add_comm 1] at hshares

end Shares

/-! ## What is scanned of both -/

/-- What is scanned lies in the text that follows `offset` bytes. -/
def Within (offset : Nat) (cs : List Char) : Except Fault (Scan α) → Prop
  | .error fault => offset ≤ fault.offset ∧ fault.offset ≤ offset + Utf8.size cs
  | .ok s => offset ≤ s.stop ∧ s.stop + Utf8.size s.rest ≤ offset + Utf8.size cs

/-- What is scanned up to the place is scanned in the other text too, and leaves
    texts that are alike. -/
def Carries (place : Nat) : Except Fault (Scan α) → Except Fault (Scan α) → Prop
  | .error fault, x' => fault.offset ≤ place → x' = .error fault
  | .ok s, x' => s.stop ≤ place →
      ∃ rest', x' = .ok ⟨s.value, s.stop, rest'⟩ ∧ Shares place s.stop s.rest rest'

section

variable {x x' : Except Fault (Scan α)} {f : Scan α → Except Fault (Scan β)}

theorem Within.of_isSuffix {offset' : Nat} (h : Within offset' cs' x) (hoffset : offset ≤ offset')
    (hsize : offset' + Utf8.size cs' ≤ offset + Utf8.size cs) : Within offset cs x := by
  cases x with
  | error fault => exact ⟨Nat.le_trans hoffset h.1, Nat.le_trans h.2 hsize⟩
  | ok s => exact ⟨Nat.le_trans hoffset h.1, Nat.le_trans h.2 hsize⟩

/-- What lies behind a character lies in the text with it. -/
theorem Within.of_behind (h : Within (offset + 1) cs x) : Within offset (c :: cs) x := by
  have hsize := Utf8.size_cons c cs
  have hpos := c.utf8Size_pos
  exact h.of_isSuffix (by omega) (by omega)

theorem Within.of_append {front rest : List Char} (h : Within (offset + front.length) rest x) :
    Within offset (front ++ rest) x := by
  have hsize := Utf8.size_append front rest
  have hlength := Utf8.length_le_size front
  exact h.of_isSuffix (by omega) (by omega)

theorem Within.le_stop {s : Scan α} (h : Within offset cs x) (hx : x = .ok s) :
    offset ≤ s.stop := by
  subst hx
  exact h.1

theorem Within.le_offset {fault : Fault} (h : Within offset cs x) (hx : x = .error fault) :
    offset ≤ fault.offset := by
  subst hx
  exact h.1

theorem Within.bind (h : Within offset cs x)
    (hf : ∀ s, x = .ok s → Within s.stop s.rest (f s)) : Within offset cs (x >>= f) := by
  cases x with
  | error fault => exact h
  | ok s => exact (hf s rfl).of_isSuffix h.1 h.2

theorem Within.map (h : Within offset cs x) (g : α → β) :
    Within offset cs (x.map fun s => ⟨g s.value, s.stop, s.rest⟩) := by
  cases x <;> exact h

/-- Behind the place nothing is said. -/
theorem Carries.of_lt (h : Within offset cs x) (hlt : place < offset) : Carries place x x' := by
  cases x with
  | error fault =>
    intro hplace
    have hle := h.1
    omega
  | ok s =>
    intro hplace
    have hle := h.1
    omega

theorem Carries.bind (h : Carries place x x') (hf : ∀ s, Within s.stop s.rest (f s))
    (hcarries : ∀ s rest', x = .ok s → Shares place s.stop s.rest rest' →
      Carries place (f s) (f ⟨s.value, s.stop, rest'⟩)) :
    Carries place (x >>= f) (x' >>= f) := by
  cases x with
  | error fault =>
    intro hplace
    rw [h hplace]
    rfl
  | ok s =>
    show Carries place (f s) _
    by_cases hplace : s.stop ≤ place
    · obtain ⟨rest', rfl, hshares⟩ := h hplace
      exact hcarries s rest' rfl hshares
    · exact .of_lt (hf s) (by omega)

theorem Carries.map (h : Carries place x x') (g : α → β) :
    Carries place (x.map fun s => ⟨g s.value, s.stop, s.rest⟩)
      (x'.map fun s => ⟨g s.value, s.stop, s.rest⟩) := by
  cases x with
  | error fault =>
    intro hplace
    rw [h hplace]
    rfl
  | ok s =>
    intro hplace
    obtain ⟨rest', rfl, hshares⟩ := h hplace
    exact ⟨rest', rfl, hshares⟩

end

theorem within_fail {cause : Cause} {n : Nat} (h : offset ≤ n)
    (h' : n ≤ offset + Utf8.size cs) : Within offset cs (fail cause n : Except Fault (Scan α)) :=
  ⟨h, h'⟩

theorem within_fail_here {cause : Cause} :
    Within offset cs (fail cause offset : Except Fault (Scan α)) :=
  within_fail (Nat.le_refl _) (Nat.le_add_right _ _)

theorem within_fail_behind {cause : Cause} :
    Within offset (c :: cs) (fail cause (offset + 1) : Except Fault (Scan α)) :=
  within_fail_here.of_behind

theorem within_ok (value : α) : Within offset cs (.ok ⟨value, offset, cs⟩) :=
  ⟨Nat.le_refl _, Nat.le_refl _⟩

theorem carries_fail {cause : Cause} {n : Nat} :
    Carries place (fail cause n : Except Fault (Scan α)) (fail cause n) := fun _ => rfl

theorem carries_ok (value : α) {stop : Nat} (h : Shares place stop cs cs') :
    Carries place (.ok ⟨value, stop, cs⟩) (.ok ⟨value, stop, cs'⟩) := fun _ => ⟨cs', rfl, h⟩

/-- A scanner that goes by the next character is judged for the same character
    and for two wide ones. -/
theorem carries_of_head (scan : List Char → Except Fault (Scan α))
    (h : Shares place offset cs cs')
    (hwithin : Within offset cs (scan cs))
    (hsame : ∀ c rest rest', Shares place (offset + c.utf8Size) rest rest' →
      Carries place (scan (c :: rest)) (scan (c :: rest')))
    (hwide : ∀ c c' rest rest', IsWide c → IsWide c' → place < offset + c.utf8Size →
      Shares place offset (c :: rest) (c' :: rest') →
      Carries place (scan (c :: rest)) (scan (c' :: rest'))) :
    Carries place (scan cs) (scan cs') := by
  by_cases hoffset : offset ≤ place
  · cases cs with
    | nil => exact absurd h.lt_of_nil (by omega)
    | cons c rest =>
      obtain ⟨c', rest', rfl, ⟨rfl, hrest⟩ | ⟨hc, hc', hlt⟩⟩ := h.uncons hoffset
      · exact hsame c' rest rest' hrest
      · exact hwide c c' rest rest' hc hc' hlt h
  · exact .of_lt hwithin (by omega)

/-! ## Words -/

theorem within_scanWord (offset : Nat) (word cs : List Char) :
    Within offset cs (scanWord offset word cs) := by
  induction word generalizing offset cs with
  | nil => exact within_ok ()
  | cons w word ih =>
    cases cs with
    | nil => exact within_fail_here
    | cons c cs =>
      rw [scanWord]
      split
      · exact (ih (offset + 1) cs).of_behind
      · exact within_fail_behind

theorem carries_scanWord {word : List Char} (hword : ∀ w ∈ word, w.utf8Size = 1)
    (h : Shares place offset cs cs') :
    Carries place (scanWord offset word cs) (scanWord offset word cs') := by
  induction word generalizing offset cs cs' with
  | nil => exact carries_ok () h
  | cons w word ih =>
    obtain ⟨hw, hword⟩ := List.forall_mem_cons.1 hword
    refine carries_of_head _ h (within_scanWord offset _ cs) ?_ ?_
    · intro c rest rest' hrest
      rw [scanWord, scanWord]
      split
      · next heq =>
        rw [heq, hw] at hrest
        exact ih hword hrest
      · exact carries_fail
    · intro c c' rest rest' hc hc' _ _
      rw [scanWord, scanWord, if_neg (hc.ne hw), if_neg (hc'.ne hw)]
      exact carries_fail

end ClassAtlas.Manifest
