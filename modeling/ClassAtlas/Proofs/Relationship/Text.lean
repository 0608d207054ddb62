import ClassAtlas.Relationship

/-! # Telling arrows apart

    The line of an arrow has its source in front, then the shaft ` --`, then a
    tip that shows the kind.  A source that holds no shaft of its own ends at
    the first shaft of the line, so the line gives source, kind and target back
    (`Relationship.eq_of_text_eq`), and a set of such arrows has a line just if
    it has the arrow.
-/

namespace ClassAtlas

/-! ## The first shaft -/

/-- What every arrow's line has behind its source. -/
def shaft : List Char := " --".toList

/-- Two shafts do not overlap: what stands between the starts of two is empty or
    starts with a shaft itself. -/
theorem eq_nil_or_shaft_isPrefix {between rest rest' : List Char}
    (h : shaft ++ rest = between ++ (shaft ++ rest')) : between = [] ∨ shaft <+: between := by
  match between, h with
  | [], _ => exact .inl rfl
  | [a], h => simp [shaft] at h
  | [a, b], h => simp [shaft] at h
  | a :: b :: c :: more, h =>
    right
    simp only [shaft, String.reduceToList, List.cons_append, List.cons.injEq] at h
    obtain ⟨rfl, rfl, rfl, _⟩ := h
    exact List.prefix_append shaft more

/-- A text is cut at its first shaft in one way only. -/
theorem eq_of_append_shaft_eq {front front' rest rest' : List Char} (hfront : ¬ shaft <:+: front)
    (hfront' : ¬ shaft <:+: front') (h : front ++ (shaft ++ rest) = front' ++ (shaft ++ rest')) :
    front = front' ∧ rest = rest' := by
  rcases List.append_eq_append_iff.1 h with ⟨between, rfl, hrest⟩ | ⟨between, rfl, hrest⟩
  · rcases eq_nil_or_shaft_isPrefix hrest with rfl | hshaft
    · exact ⟨(List.append_nil _).symm, List.append_cancel_left hrest⟩
    · exact absurd (hshaft.isInfix.trans (List.suffix_append _ _).isInfix) hfront'
  · rcases eq_nil_or_shaft_isPrefix hrest with rfl | hshaft
    · exact ⟨List.append_nil _, (List.append_cancel_left hrest).symm⟩
    · exact absurd (hshaft.isInfix.trans (List.suffix_append _ _).isInfix) hfront

namespace Relationship

/-! ## Lines of arrows -/

/-- No shaft stands in the source of the arrow. -/
def Plain (r : Relationship) : Prop := ¬ shaft <:+: r.source.toList

instance (r : Relationship) : Decidable r.Plain := inferInstanceAs (Decidable (¬ _))

/-- The line of an arrow behind its shaft. -/
def tip (r : Relationship) : List Char :=
  match r.kind with
  | .inheritance => "|> ".toList ++ r.target.toList
  | .association => "> ".toList ++ (r.target.toList ++ " : has".toList)

theorem toList_text (r : Relationship) :
    r.text.toList = r.source.toList ++ (shaft ++ r.tip) := by
  obtain ⟨kind, source, target⟩ := r
  cases kind <;> simp [text, tip, shaft]

theorem eq_of_tip_eq {r s : Relationship} (h : r.tip = s.tip) :
    r.kind = s.kind ∧ r.target = s.target := by
  obtain ⟨kind, source, target⟩ := r
  obtain ⟨kind', source', target'⟩ := s
  cases kind <;> cases kind' <;> simp_all [tip, String.toList_inj]

/-- Plain arrows that read the same are the same. -/
theorem eq_of_text_eq {r s : Relationship} (hr : r.Plain) (hs : s.Plain) (h : r.text = s.text) :
    r = s := by
  have hlines : r.source.toList ++ (shaft ++ r.tip) = s.source.toList ++ (shaft ++ s.tip) := by
    rw [← toList_text, ← toList_text, h]
  obtain ⟨hsource, htip⟩ := eq_of_append_shaft_eq hr hs hlines
  obtain ⟨hkind, htarget⟩ := eq_of_tip_eq htip
  rw [String.toList_inj] at hsource
  cases r
  cases s
  simp_all

end Relationship

/-- A set of plain arrows has the line of a plain arrow just if it has the arrow. -/
theorem RelationshipSet.contains_text_iff {set : RelationshipSet} (hset : ∀ s ∈ set.edges, s.Plain)
    {r : Relationship} (hr : r.Plain) : set.contains r.text ↔ r ∈ set.edges := by
  rw [contains, List.contains_iff_mem, lines, List.mem_map]
  constructor
  · rintro ⟨s, hs, heq⟩
    rwa [← Relationship.eq_of_text_eq (hset s hs) hr heq]
  · intro hmem
    exact ⟨r, hmem, rfl⟩

end ClassAtlas
