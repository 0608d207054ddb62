import ClassAtlas.Relationship

/-! # What a relationship set keeps

    A set that was filled arrow by arrow has one line for every text that came,
    in the order of first arrival, and beside each line the arrow that brought
    it first.  The arrows that came are a ghost of the set: `Records` ties the
    two, and one insertion keeps it.
-/

namespace ClassAtlas.RelationshipSet

/-- The first arrow of a list that reads as `line`. -/
def firstWith (arrows : List Relationship) (line : String) : Option Relationship :=
  arrows.find? (·.text == line)

/-- The set holds the first of every text among the arrows that came. -/
structure Records (set : RelationshipSet) (came : List Relationship) : Prop where
  lines : set.lines = (came.map (·.text)).eraseDups
  edges : set.edges.map some = set.lines.map (firstWith came)

theorem records_empty : Records empty [] where
  lines := rfl
  edges := rfl

theorem Records.contains_iff {set : RelationshipSet} {came : List Relationship}
    (h : set.Records came) (line : String) :
    set.contains line ↔ line ∈ came.map (·.text) := by
  rw [contains, h.lines, List.contains_iff_mem, List.mem_eraseDups]

theorem firstWith_concat_of_mem {came : List Relationship} {line : String}
    (h : line ∈ came.map (·.text)) (r : Relationship) :
    firstWith (came ++ [r]) line = firstWith came line := by
  obtain ⟨s, hs, rfl⟩ := List.mem_map.1 h
  have hsome : (firstWith came s.text).isSome := by
    rw [firstWith, List.find?_isSome]
    exact ⟨s, hs, beq_self_eq_true _⟩
  rw [firstWith, List.find?_append]
  exact Option.or_of_isSome hsome

theorem firstWith_concat_of_not_mem {came : List Relationship} {r : Relationship}
    (h : r.text ∉ came.map (·.text)) : firstWith (came ++ [r]) r.text = some r := by
  have hnone : came.find? (·.text == r.text) = none := by
    refine List.find?_eq_none.2 fun s hs heq => h ?_
    rw [← eq_of_beq heq]
    exact List.mem_map_of_mem hs
  rw [firstWith, List.find?_append, hnone, Option.none_or, List.find?_singleton,
    if_pos (beq_self_eq_true _)]

theorem Records.insert {set : RelationshipSet} {came : List Relationship} (h : set.Records came)
    (r : Relationship) : (set.insert r).Records (came ++ [r]) := by
  -- lines that stand already keep their first arrow
  have hold : set.lines.map (firstWith (came ++ [r])) = set.lines.map (firstWith came) := by
    refine List.map_congr_left fun line hline => ?_
    rw [h.lines, List.mem_eraseDups] at hline
    exact firstWith_concat_of_mem hline r
  unfold RelationshipSet.insert
  split
  · next hc =>
    have hmem : r.text ∈ came.map (·.text) := (h.contains_iff _).1 hc
    constructor
    · rw [h.lines, List.map_append, List.eraseDups_append]
      simp [List.removeAll, List.mem_map.1 hmem]
    · rw [hold]
      exact h.edges
  · next hc =>
    have hnew : r.text ∉ came.map (·.text) := fun hmem => hc ((h.contains_iff _).2 hmem)
    have hlines : RelationshipSet.lines ⟨set.edges ++ [r]⟩ = set.lines ++ [r.text] := by
      rw [RelationshipSet.lines, List.map_append]
      rfl
    constructor
    · rw [hlines, h.lines, List.map_append, List.eraseDups_append]
      have hkept : [r.text].removeAll (came.map (·.text)) = [r.text] := by
        simp only [List.removeAll, List.filter_cons, List.filter_nil]
        simp [hnew]
      rw [List.map_singleton, hkept]
      rfl
    · rw [hlines]
      calc (set.edges ++ [r]).map some
          = set.edges.map some ++ [some r] := List.map_append
        _ = set.lines.map (firstWith (came ++ [r])) ++ [firstWith (came ++ [r]) r.text] := by
            rw [hold, h.edges, firstWith_concat_of_not_mem hnew]
        _ = (set.lines ++ [r.text]).map (firstWith (came ++ [r])) := by
            rw [List.map_append, List.map_singleton]

theorem Records.insertAll {set : RelationshipSet} {came : List Relationship}
    (h : set.Records came) (rs : List Relationship) :
    (set.insertAll rs).Records (came ++ rs) := by
  induction rs generalizing set came with
  | nil => rw [List.append_nil]; exact h
  | cons r rs ih =>
    have hnext := ih (h.insert r)
    rw [List.append_assoc, List.singleton_append] at hnext
    exact hnext

end ClassAtlas.RelationshipSet
