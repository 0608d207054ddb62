import ClassAtlas.Proofs.Relationship.Inference
import ClassAtlas.Proofs.Relationship.Text
import ClassAtlas.Proofs.Text.Lines
import ClassAtlas.Report

/-! # Further built-in types

    A run takes a type out before its arrows come to the set.  The same arrows
    are left when they are taken out of the set afterwards, provided that no two
    arrows read the same: otherwise an arrow that is left could have lost its
    place to one that goes (`RelationshipSet.restrict_insertAll`).

    The packages of a document know nothing of built-in types, so documents
    differ behind the heading of the relationships only.
-/

namespace ClassAtlas

/-! ## Taking arrows out of a set -/

namespace RelationshipSet

/-- The arrows of a set that pass a test. -/
def restrict (keep : Relationship → Bool) (set : RelationshipSet) : RelationshipSet :=
  ⟨set.edges.filter keep⟩

variable {set : RelationshipSet} {keep : Relationship → Bool}

theorem forall_plain_restrict (keep : Relationship → Bool) (hset : ∀ s ∈ set.edges, s.Plain) :
    ∀ s ∈ (set.restrict keep).edges, s.Plain :=
  fun s hs => hset s (List.mem_filter.1 hs).1

theorem forall_plain_insert (hset : ∀ s ∈ set.edges, s.Plain) {r : Relationship} (hr : r.Plain) :
    ∀ s ∈ (set.insert r).edges, s.Plain := by
  unfold insert
  split
  · exact hset
  · intro s hs
    rcases List.mem_append.1 hs with hs | hs
    · exact hset s hs
    · rw [List.mem_singleton.1 hs]
      exact hr

/-- An arrow that fails the test leaves no trace, any other comes in as it would
    have come into the set without those that fail. -/
theorem restrict_insert (hset : ∀ s ∈ set.edges, s.Plain) {r : Relationship} (hr : r.Plain) :
    (set.insert r).restrict keep
      = if keep r then (set.restrict keep).insert r else set.restrict keep := by
  -- among plain arrows the set's look-up by text is membership, before and after
  have hcontains := contains_text_iff hset hr
  have hcontains' := contains_text_iff (forall_plain_restrict keep hset) hr
  by_cases hkeep : keep r
  · have hsame : r ∈ (set.restrict keep).edges ↔ r ∈ set.edges := by
      simp [restrict, hkeep]
    rw [if_pos hkeep]
    by_cases hmem : r ∈ set.edges
    · rw [insert, if_pos (hcontains.2 hmem), insert, if_pos (hcontains'.2 (hsame.2 hmem))]
    · rw [insert, if_neg (mt hcontains.1 hmem), insert,
        if_neg (mt hcontains'.1 (mt hsame.1 hmem)), restrict, List.filter_append,
        List.filter_cons_of_pos hkeep, List.filter_nil]
      rfl
  · rw [if_neg hkeep, insert]
    split
    · rfl
    · rw [restrict, List.filter_append, List.filter_cons_of_neg hkeep, List.filter_nil,
        List.append_nil]
      rfl

/-- Taking arrows out before they come to a set or afterwards is the same. -/
theorem restrict_insertAll {rs : List Relationship} (hset : ∀ s ∈ set.edges, s.Plain)
    (hrs : ∀ r ∈ rs, r.Plain) :
    (set.insertAll rs).restrict keep = (set.restrict keep).insertAll (rs.filter keep) := by
  induction rs generalizing set with
  | nil => rfl
  | cons r rs ih =>
    obtain ⟨hr, hrs⟩ := List.forall_mem_cons.1 hrs
    have hnext := ih (forall_plain_insert hset hr) hrs
    rw [restrict_insert hset hr] at hnext
    rw [List.filter_cons]
    by_cases hkeep : keep r
    · rw [if_pos hkeep] at hnext ⊢
      exact hnext
    · rw [if_neg hkeep] at hnext ⊢
      exact hnext

end RelationshipSet

/-! ## What a built-in type takes out -/

theorem BuiltInTypes.contains_eq (types : BuiltInTypes) (type : String) :
    types.contains type = (contains {} type || types.extra.contains type) := by
  simp only [contains, List.contains_nil, Bool.or_false]
  rw [Bool.or_right_comm]

theorem BuiltInTypes.mem_extra_foldl_insert {types : BuiltInTypes} {names : List String}
    {type : String} :
    type ∈ (names.foldl insert types).extra ↔ type ∈ names ∨ type ∈ types.extra := by
  induction names generalizing types with
  | nil => simp
  | cons name names ih =>
    rw [List.foldl_cons, ih, insert, List.mem_cons, List.mem_cons, or_left_comm, or_assoc]

/-- The arrow is no association with one of the types. -/
def Relationship.spared (extra : List String) (r : Relationship) : Bool :=
  ¬ (r.kind = .association ∧ r.target ∈ extra)

theorem Entity.associations_eq_filter (types : BuiltInTypes) (e : Entity) :
    e.associations types = (e.associations {}).filter (·.spared types.extra) := by
  rw [associations, associations, List.filter_map, List.filter_filter]
  refine congrArg _ (List.filter_congr fun m _ => ?_)
  rw [types.contains_eq]
  simp [Relationship.spared, Bool.and_comm, Bool.and_assoc]

theorem Entity.filter_inheritances (extra : List String) (e : Entity) :
    e.inheritances.filter (·.spared extra) = e.inheritances := by
  refine List.filter_eq_self.2 fun r hr => ?_
  obtain ⟨_, b, _, rfl⟩ := mem_inheritances_iff.1 hr
  rfl

namespace RelationshipSet

theorem candidates_eq_filter (types : BuiltInTypes) (xs ys : List Entity) :
    candidates types xs ys = (candidates {} xs ys).filter (·.spared types.extra) := by
  simp only [candidates, NamespaceIndex.associations, List.filter_append, List.filter_flatMap,
    Entity.filter_inheritances, ← Entity.associations_eq_filter]

/-- Every arrow starts at a class of the list. -/
theorem exists_source_of_mem_candidates {types : BuiltInTypes} {es : List Entity}
    {r : Relationship} (h : r ∈ candidates types es es) : ∃ e ∈ es, e.isClass ∧ r.source = e.name := by
  rcases mem_candidates_iff.1 h with ⟨e, he, hr⟩ | ⟨e, he, hclass, hr⟩
  · obtain ⟨hclass, b, _, rfl⟩ := Entity.mem_inheritances_iff.1 hr
    exact ⟨e, he, hclass, rfl⟩
  · obtain ⟨m, _, rfl⟩ := List.mem_map.1 hr
    exact ⟨e, he, hclass, rfl⟩

/-- Built-in names take their associations out of a run's set and nothing else. -/
theorem infer_eq_restrict (types : BuiltInTypes) {es : List Entity}
    (h : ∀ e ∈ es, e.isClass → ¬ shaft <:+: e.name.toList) :
    infer types es (.ofList es) = (infer {} es (.ofList es)).restrict (·.spared types.extra) := by
  have hplain : ∀ r ∈ candidates {} es es, r.Plain := by
    intro r hr
    obtain ⟨e, he, hclass, hsource⟩ := exists_source_of_mem_candidates hr
    rw [Relationship.Plain, hsource]
    exact h e he hclass
  have hnone : ∀ s ∈ empty.edges, s.Plain := fun s hs => absurd hs List.not_mem_nil
  calc infer types es (.ofList es)
      = empty.insertAll ((candidates {} es es).filter (·.spared types.extra)) := by
        rw [← candidates_eq_filter]
        rfl
    _ = (empty.insertAll (candidates {} es es)).restrict (·.spared types.extra) :=
        (restrict_insertAll hnone hplain).symm

end RelationshipSet

/-! ## Documents up to the relationships -/

/-- The document in front of the heading of the relationships. -/
def Document.front (cwd : Path) (index : NamespaceIndex) : String :=
  ofLines (preamble ++ index.packages.flatMap (packageLines cwd) ++ [""])

theorem Document.render_eq (cwd : Path) (index : NamespaceIndex) (set : RelationshipSet) :
    render cwd index set
      = front cwd index ++ "' Relationships\n" ++ ofLines set.lines ++ "@enduml\n" := by
  have hlines : lines cwd index set
      = preamble ++ index.packages.flatMap (packageLines cwd) ++ [""] ++ ["' Relationships"]
        ++ set.lines ++ ["@enduml"] := by
    simp [lines, relationshipLines, relationshipsHeading, closing]
  rw [render, hlines, ofLines_append, ofLines_append, ofLines_append]
  rfl

namespace Report

/-- Names that a run takes for built-in, whether they come as a list or one by
    one, take the associations with them out of the relationships and leave all
    else as it is, in order.  Up to the heading of the relationships the
    document does not change. -/
theorem edges_ofEntities_builtIns (cwd : Path) {es : List Entity}
    (h : ∀ e ∈ es, e.isClass → ¬ " --".toList <:+: e.name.toList) (names : List String) :
    let plain := ofEntities cwd {} es
    ∀ types ∈ [{ extra := names }, names.foldl BuiltInTypes.insert {}],
      let report := ofEntities cwd types es
      report.relationships.edges
          = plain.relationships.edges.filter
              (fun r => ¬ (r.kind = .association ∧ r.target ∈ names))
        ∧ ∃ front,
            plain.document = front ++ "' Relationships\n"
                ++ Document.ofLines plain.relationships.lines ++ "@enduml\n"
              ∧ report.document = front ++ "' Relationships\n"
                ++ Document.ofLines report.relationships.lines ++ "@enduml\n" := by
  intro plain types htypes report
  have hextra : ∀ t, t ∈ types.extra ↔ t ∈ names := by
    intro t
    rcases List.mem_cons.1 htypes with rfl | htypes
    · rfl
    · rw [List.mem_singleton.1 htypes, BuiltInTypes.mem_extra_foldl_insert]
      exact or_iff_left List.not_mem_nil
  refine ⟨?_, Document.front cwd (.ofList es), ?_, ?_⟩
  · have hedges := congrArg RelationshipSet.edges (RelationshipSet.infer_eq_restrict types h)
    simp only [RelationshipSet.restrict, Relationship.spared, hextra] at hedges
    exact hedges
  · simp only [plain, ofEntities, Document.render_eq]
  · simp only [report, ofEntities, Document.render_eq]

/-- A class that has a base and a field of one type: with that type built-in the
    inheritance stays and the association goes. -/
theorem edges_ofEntities_builtIns_guid :
    let order : Entity :=
      { kind := .classType, name := "Order -", bases := ["Guid"], source := .ofString "/shop.cs",
        members := [⟨.field, "id", "Guid", false⟩, ⟨.property, "Buyer", "Person", true⟩] }
    let names := ["Money", "Guid", "Money"]
    (∀ e ∈ [order], e.isClass → ¬ " --".toList <:+: e.name.toList)
      ∧ names.foldl BuiltInTypes.insert {} ∈ [{ extra := names }, names.foldl BuiltInTypes.insert {}]
      ∧ (ofEntities .top (names.foldl BuiltInTypes.insert {}) [order]).relationships.edges
        = [⟨.inheritance, "Order -", "Guid"⟩, ⟨.association, "Order -", "Person"⟩] := by
  intro order names
  have h : ∀ e ∈ [order], e.isClass → ¬ " --".toList <:+: e.name.toList := by
    intro e he _
    rw [List.mem_singleton.1 he]
    simp only [order, String.reduceToList]
    decide
  have hnames : names.foldl BuiltInTypes.insert {}
      ∈ [{ extra := names }, names.foldl BuiltInTypes.insert {}] := by simp
  refine ⟨h, hnames, ?_⟩
  rw [(edges_ofEntities_builtIns .top h names _ hnames).1]
  decide

end Report

end ClassAtlas
