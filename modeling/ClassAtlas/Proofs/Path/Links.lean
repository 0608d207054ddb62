import Mathlib
import ClassAtlas.Proofs.Path.Steps
import ClassAtlas.Proofs.Path.Uri

/-! # Links read back

    Percent-encoding loses nothing: every byte is one character or one triplet,
    and no triplet can be taken for three characters, since `%` never stands for
    itself.  So a link gives back the bytes of the absolute path that it was made
    of, whether they are text or not (`ofPath_reads_back`).
-/

namespace ClassAtlas.Uri

/-! ## The syntax of a link -/

/-- The characters that stand for themselves in the path of a URI: letters,
    digits, the unreserved marks, the delimiters that may stand inside a name,
    and those between names. -/
def IsPathChar (c : Char) : Prop :=
  ('a' ≤ c ∧ c ≤ 'z') ∨ ('A' ≤ c ∧ c ≤ 'Z') ∨ ('0' ≤ c ∧ c ≤ '9')
    ∨ c ∈ ['-', '.', '_', '~']
    ∨ c ∈ ['!', '$', '&', '\'', '(', ')', '*', '+', ',', ';', '=']
    ∨ c ∈ ['/', ':', '@']

/-- The digits of a triplet. -/
def IsUpperHex (c : Char) : Prop := ('0' ≤ c ∧ c ≤ '9') ∨ ('A' ≤ c ∧ c ≤ 'F')

instance (c : Char) : Decidable (IsUpperHex c) := inferInstanceAs (Decidable (_ ∨ _))

/-- Path characters and triplets, and nothing else. -/
inductive Encoded : List Char → Prop where
  | nil : Encoded []
  | plain {c : Char} {rest : List Char} (hc : IsPathChar c) (hrest : Encoded rest) :
      Encoded (c :: rest)
  | triplet {high low : Char} {rest : List Char} (hhigh : IsUpperHex high) (hlow : IsUpperHex low)
      (hrest : Encoded rest) : Encoded ('%' :: high :: low :: rest)

theorem isAlphanum_iff {c : Char} :
    c.isAlphanum ↔ ('a' ≤ c ∧ c ≤ 'z') ∨ ('A' ≤ c ∧ c ≤ 'Z') ∨ ('0' ≤ c ∧ c ≤ '9') := by
  simp only [Char.isAlphanum, Char.isAlpha, Char.isUpper, Char.isLower, Char.isDigit,
    Bool.or_eq_true, Bool.and_eq_true, decide_eq_true_eq, ge_iff_le]
  exact (or_congr_left or_comm).trans or_assoc

theorem isPlain_iff {c : Char} : isPlain c ↔ IsPathChar c := by
  have hmarks : c ∈ marks ↔ c ∈ ['-', '.', '_', '~']
      ∨ c ∈ ['!', '$', '&', '\'', '(', ')', '*', '+', ',', ';', '='] ∨ c ∈ ['/', ':', '@'] := by
    simp only [marks, List.mem_cons, List.not_mem_nil, or_false]
    grind
  rw [isPlain, Bool.or_eq_true, List.contains_iff_mem, isAlphanum_iff, hmarks, IsPathChar,
    or_assoc, or_assoc]

/-! ## One byte -/

theorem isUpperHex_upper : ∀ n < 16, IsUpperHex (Hex.upper n) := by decide

theorem value?_upper : ∀ n < 16, Hex.value? (Hex.upper n) = some n := by decide

/-- The character of a byte has its number. -/
theorem toNat_ofNat_byte (b : UInt8) : (Char.ofNat b.toNat).toNat = b.toNat := by
  have hb : b.toNat < 256 := b.toNat_lt
  have hvalid : b.toNat.isValidChar := by
    left
    omega
  rw [Char.ofNat, dif_pos hvalid]
  rfl

theorem decode?_plain {c : Char} (hc : isPlain c) (cs : List Char) :
    decode? (c :: cs) = (decode? cs).map (UInt8.ofNat c.toNat :: ·) := by
  have hne : c ≠ '%' := by
    rintro rfl
    exact absurd hc (by decide)
  rw [decode?]
  · rw [if_pos hc]
    cases decode? cs <;> rfl
  · intro h l rest hpercent
    exact absurd hpercent hne

theorem decode?_triplet {h l : Char} {high low : Nat} (hhigh : Hex.value? h = some high)
    (hlow : Hex.value? l = some low) (cs : List Char) :
    decode? ('%' :: h :: l :: cs) = (decode? cs).map (UInt8.ofNat (high * 16 + low) :: ·) := by
  rw [decode?, hhigh, hlow]
  cases decode? cs <;> rfl

/-- A byte is read back, whatever comes after it. -/
theorem decode?_encodeByte_append (b : UInt8) (cs : List Char) :
    decode? (encodeByte b ++ cs) = (decode? cs).map (b :: ·) := by
  have hb : b.toNat < 256 := b.toNat_lt
  simp only [encodeByte]
  split
  · next hplain =>
    rw [List.singleton_append, decode?_plain hplain, toNat_ofNat_byte, UInt8.ofNat_toNat]
  · have hsum : b.toNat / 16 * 16 + b.toNat % 16 = b.toNat := by omega
    rw [Hex.byteUpper, List.cons_append, List.cons_append, List.singleton_append,
      decode?_triplet (value?_upper _ (by omega)) (value?_upper _ (by omega)), hsum,
      UInt8.ofNat_toNat]

theorem Encoded.encodeByte_append (b : UInt8) {cs : List Char} (h : Encoded cs) :
    Encoded (encodeByte b ++ cs) := by
  have hb : b.toNat < 256 := b.toNat_lt
  simp only [encodeByte]
  split
  · next hplain => exact .plain (isPlain_iff.1 hplain) h
  · exact .triplet (isUpperHex_upper _ (by omega)) (isUpperHex_upper _ (by omega)) h

/-! ## All bytes -/

/-- What is encoded is read back. -/
theorem decode?_encode (bs : Bytes) : decode? (encode bs) = some bs := by
  induction bs with
  | nil => rw [encode, List.flatMap_nil, decode?]
  | cons b bs ih =>
    rw [encode, List.flatMap_cons, ← encode, decode?_encodeByte_append, ih, Option.map_some]

theorem encoded_encode (bs : Bytes) : Encoded (encode bs) := by
  induction bs with
  | nil => exact .nil
  | cons b bs ih =>
    rw [encode, List.flatMap_cons, ← encode]
    exact ih.encodeByte_append b

theorem encode_injective {bs bs' : Bytes} (h : encode bs = encode bs') : bs = bs' := by
  have hread := decode?_encode bs
  rw [h, decode?_encode] at hread
  exact (Option.some.inj hread).symm

/-- A slash in front stays in front. -/
theorem slash_isPrefix_encode {p : Path} (h : p.isAbsolute) : ['/'] <+: encode p.bytes := by
  obtain ⟨bs, hbs⟩ := List.head?_eq_some_iff.1 (eq_of_beq h)
  have hslash : encodeByte Path.slash = ['/'] := by decide
  rw [hbs, encode, List.flatMap_cons, hslash]
  exact List.prefix_append _ _

/-! ## Links -/

section

variable {cwd p : Path} (hcwd : cwd.isAbsolute) (hp : p ≠ .empty)

include hcwd hp

theorem isAbsolute_absolute : (Path.absolute cwd p).isAbsolute := by
  have hform : Path.absolute? cwd p = some (Path.absolute cwd p) := by
    rw [Path.absolute, Path.absolute?, if_neg hp, Option.getD_some]
  exact Path.isAbsolute_absolute? hform hcwd

/-- A link is its scheme and the bytes of the absolute path. -/
theorem toList_ofPath : (ofPath cwd p).toList = scheme ++ encode (Path.absolute cwd p).bytes := by
  rw [ofPath, String.toList_ofList]
  simp only [isAbsolute_absolute hcwd hp, if_true]

end

/-- Links are equal just if the absolute forms are. -/
theorem ofPath_inj {cwd p q : Path} (hcwd : cwd.isAbsolute) (hp : p ≠ .empty) (hq : q ≠ .empty) :
    ofPath cwd p = ofPath cwd q
      ↔ (Path.absolute cwd p).bytes = (Path.absolute cwd q).bytes := by
  rw [← String.toList_inj, toList_ofPath hcwd hp, toList_ofPath hcwd hq,
    List.append_cancel_left_eq]
  exact ⟨encode_injective, congrArg encode⟩

/-- Seen from an absolute directory, the link to a file is three slashes behind
    its scheme and then path characters and triplets, none of which ends a link
    or a line; decoded it gives the bytes of the absolute path.  So two paths have
    one link just if they have one absolute form. -/
theorem ofPath_reads_back {cwd : Path} (hcwd : cwd.isAbsolute) :
    (∀ p : Path, p ≠ .empty →
      ∃ link, (ofPath cwd p).toList = "file://".toList ++ link ∧ ['/'] <+: link ∧ Encoded link
        ∧ (∀ c ∈ link, c ∉ ['[', ']', ' ', '\n']) ∧ decode? link = some (Path.absolute cwd p).bytes)
    ∧ ∀ p q : Path, p ≠ .empty → q ≠ .empty →
      (ofPath cwd p = ofPath cwd q ↔ (Path.absolute cwd p).bytes = (Path.absolute cwd q).bytes) := by
  constructor
  · intro p hp
    refine ⟨encode (Path.absolute cwd p).bytes, toList_ofPath hcwd hp,
      slash_isPrefix_encode (isAbsolute_absolute hcwd hp), encoded_encode _, ?_, decode?_encode _⟩
    intro c hc hmem
    have hlink : c ∈ (ofPath cwd p).toList := by
      rw [toList_ofPath hcwd hp]
      exact List.mem_append_right _ hc
    simp only [List.mem_cons, List.not_mem_nil, or_false] at hmem
    rcases hmem with rfl | rfl | rfl | rfl <;>
      exact not_mem_ofPath (by decide) (by decide) hlink
  · exact fun p q hp hq => ofPath_inj hcwd hp hq

/-- A name with a blank, a percent sign, a byte that is no text and a bracket. -/
theorem ofPath_reads_back_odd_name :
    (Path.ofString "/work").isAbsolute ∧ (Path.mk [0x20, 0x25, 0xFF, 0x5D]) ≠ .empty
      ∧ ofPath (.ofString "/work") ⟨[0x20, 0x25, 0xFF, 0x5D]⟩ = "file:///work/%20%25%FF%5D"
      ∧ ∃ link, "file:///work/%20%25%FF%5D".toList = "file://".toList ++ link ∧ Encoded link
        ∧ decode? link = some (Utf8.encode "/work/" ++ [0x20, 0x25, 0xFF, 0x5D]) := by
  have hlink : ofPath (.ofString "/work") ⟨[0x20, 0x25, 0xFF, 0x5D]⟩ = "file:///work/%20%25%FF%5D" := by
    decide +kernel
  have hform : (Path.absolute (.ofString "/work") ⟨[0x20, 0x25, 0xFF, 0x5D]⟩).bytes
      = Utf8.encode "/work/" ++ [0x20, 0x25, 0xFF, 0x5D] := by decide +kernel
  have hcwd : (Path.ofString "/work").isAbsolute := by decide +kernel
  have hne : Path.mk [0x20, 0x25, 0xFF, 0x5D] ≠ .empty := by decide
  obtain ⟨link, hchars, -, hencoded, -, hread⟩ := (ofPath_reads_back hcwd).1 _ hne
  rw [hlink] at hchars
  rw [hform] at hread
  exact ⟨hcwd, hne, hlink, link, hchars, hencoded, hread⟩

end ClassAtlas.Uri
