import Mathlib.Data.Bool.AllAny
import ClassAtlas.Path.Uri

/-! # Characters of a link

    A link holds plain characters and `%` only, whatever bytes its path has:
    it stays on one line, and no bracket in it can be taken for the end of a
    link.
-/

namespace ClassAtlas.Uri

theorem isPlain_upper : ∀ n < 16, isPlain (Hex.upper n) := by decide

theorem mem_encodeByte {b : UInt8} {c : Char} (h : c ∈ encodeByte b) : isPlain c ∨ c = '%' := by
  simp only [encodeByte] at h
  split at h
  · next hp =>
    left
    rw [List.mem_singleton.1 h]
    exact hp
  · rcases List.mem_cons.1 h with rfl | h
    · right
      rfl
    · left
      have hb : b.toNat < 256 := b.toNat_lt
      simp only [Hex.byteUpper, List.mem_cons, List.not_mem_nil, or_false] at h
      rcases h with rfl | rfl
      · exact isPlain_upper _ (by omega)
      · exact isPlain_upper _ (by omega)

theorem mem_ofPath {cwd p : Path} {c : Char} (h : c ∈ (ofPath cwd p).toList) :
    isPlain c ∨ c = '%' := by
  rw [ofPath, String.toList_ofList, List.mem_append] at h
  rcases h with h | h
  · left
    have hscheme : ∀ d ∈ scheme, isPlain d := List.all_iff_forall_prop.1 (by decide)
    exact hscheme c h
  · obtain ⟨b, _, hb⟩ := List.mem_flatMap.1 h
    exact mem_encodeByte hb

theorem not_mem_ofPath {cwd p : Path} {c : Char} (h : ¬ isPlain c) (hc : c ≠ '%') :
    c ∉ (ofPath cwd p).toList :=
  fun hmem => (mem_ofPath hmem).elim h hc

/-- A link is what stands before the bracket that closes it. -/
theorem takeWhile_ofPath_append (cwd p : Path) (more : List Char) :
    ((ofPath cwd p).toList ++ ']' :: more).takeWhile (· != ']') = (ofPath cwd p).toList := by
  have hlink : ']' ∉ (ofPath cwd p).toList := not_mem_ofPath (by decide) (by decide)
  have hall : ∀ c ∈ (ofPath cwd p).toList, (c != ']') = true := fun c hc =>
    bne_iff_ne.2 fun heq => hlink (heq ▸ hc)
  rw [List.takeWhile_append_of_pos hall]
  simp

end ClassAtlas.Uri
