import ClassAtlas.Proofs.NamespaceIndex.Grouping
import ClassAtlas.Proofs.Relationship.Deduplication
import ClassAtlas.Relationship.Inference

/-! # What is inferred

    The lines of a run in words: every base of every class in the order of the
    list, then every stored member of every class whose type is not built-in,
    namespace by namespace in byte order; of equal lines the first stays.
    Inference is proved to give these lines, and to keep beside each line the
    arrow that wrote it first (`RelationshipSet.infer_eq_firstOccurrences`).
-/

namespace ClassAtlas

/-! ## The expected arrows -/

/-- A type counts as built-in: it stands in the fixed table, is one of the extra
    names or opens like a container. -/
def BuiltInTypes.Names (types : BuiltInTypes) (type : String) : Prop :=
  type ∈ scalars ∨ type ∈ types.extra
    ∨ ∃ head ∈ ["List<", "IEnumerable<", "Dictionary<"], head.toList <+: type.toList

instance (types : BuiltInTypes) (type : String) : Decidable (types.Names type) :=
  inferInstanceAs (Decidable (_ ∨ _ ∨ _))

theorem BuiltInTypes.contains_iff_names (types : BuiltInTypes) (type : String) :
    types.contains type ↔ types.Names type := by
  simp only [contains, Names, isContainer, containers, Bool.or_eq_true, List.contains_iff_mem,
    List.any_eq_true, List.isPrefixOf_iff_prefix, or_assoc]

/-- The classes of a list, namespace by namespace in byte order, those of one
    namespace in the order of the list. -/
def classesByNamespace (es : List Entity) : List Entity :=
  (namespacesOf es).flatMap (classesOf es)

/-- An arrow and the line that it is to have. -/
abbrev Arrow : Type := String × Relationship

/-- The arrows from every class to its bases. -/
def inheritanceArrows (es : List Entity) : List Arrow :=
  (es.filter (·.isClass)).flatMap fun c =>
    c.bases.map fun b => (c.name ++ " --|> " ++ b, ⟨.inheritance, c.name, b⟩)

/-- The arrows from every class to the types of its fields and properties. -/
def associationArrows (types : BuiltInTypes) (es : List Entity) : List Arrow :=
  (classesByNamespace es).flatMap fun c =>
    (c.members.filter fun m => m.kind ≠ .method ∧ ¬ types.Names m.type).map fun m =>
      (c.name ++ " --> " ++ m.type ++ " : has", ⟨.association, c.name, m.type⟩)

/-! ## The arrows of the code -/

/-- An arrow with its own line. -/
def Relationship.arrow (r : Relationship) : Arrow := (r.text, r)

theorem Entity.mem_inheritances_iff {e : Entity} {r : Relationship} :
    r ∈ e.inheritances ↔ e.isClass ∧ ∃ b ∈ e.bases, r = ⟨.inheritance, e.name, b⟩ := by
  unfold inheritances
  split
  · next hclass => simp [hclass, eq_comm]
  · next hclass => simp [hclass]

/-- Inheritances come from classes only. -/
theorem flatMap_inheritances_eq_filter (es : List Entity) :
    es.flatMap (·.inheritances) = (es.filter (·.isClass)).flatMap (·.inheritances) := by
  induction es with
  | nil => rfl
  | cons e es ih =>
    rw [List.filter_cons, List.flatMap_cons, ih]
    by_cases hclass : e.isClass
    · rw [if_pos hclass, List.flatMap_cons]
    · rw [if_neg hclass, Entity.inheritances, if_neg hclass, List.nil_append]

theorem inheritanceArrows_eq (es : List Entity) :
    inheritanceArrows es = (es.flatMap (·.inheritances)).map (·.arrow) := by
  rw [flatMap_inheritances_eq_filter, List.map_flatMap, inheritanceArrows]
  refine List.flatMap_congr fun c hc => ?_
  rw [Entity.inheritances, if_pos (List.mem_filter.1 hc).2, List.map_map]
  rfl

theorem Member.isStored_iff (m : Member) : m.isStored ↔ m.kind ≠ .method := by
  unfold isStored
  cases m.kind <;> simp

theorem Entity.map_arrow_associations (types : BuiltInTypes) (e : Entity) :
    (e.associations types).map (·.arrow)
      = (e.members.filter fun m => m.kind ≠ .method ∧ ¬ types.Names m.type).map fun m =>
          (e.name ++ " --> " ++ m.type ++ " : has", ⟨.association, e.name, m.type⟩) := by
  -- the two tests agree on every member, so the filters keep the same ones
  have hkept : (fun m : Member => m.isStored && ! types.contains m.type)
      = fun m => decide (m.kind ≠ .method ∧ ¬ types.Names m.type) := by
    funext m
    rw [Bool.eq_iff_iff]
    simp only [Bool.and_eq_true, Bool.not_eq_true', decide_eq_true_eq, m.isStored_iff,
      ← types.contains_iff_names, Bool.not_eq_true]
  rw [associations, hkept, List.map_map]
  rfl

theorem NamespaceIndex.classes_ofList (es : List Entity) :
    (ofList es).classes = classesByNamespace es := by
  have hgroups := groups_ofList es
  rw [classes, hgroups.packages_eq, hgroups.namespaces_eq, List.flatMap_map]
  rfl

theorem associationArrows_eq (types : BuiltInTypes) (es : List Entity) :
    associationArrows types es = ((NamespaceIndex.ofList es).associations types).map (·.arrow) := by
  rw [NamespaceIndex.associations, NamespaceIndex.classes_ofList, List.map_flatMap,
    associationArrows]
  exact List.flatMap_congr fun c _ => (c.map_arrow_associations types).symm

/-- Looking up a line finds the first arrow that reads so. -/
theorem lookup_map_arrow (rs : List Relationship) (line : String) :
    (rs.map (·.arrow)).lookup line = RelationshipSet.firstWith rs line := by
  induction rs with
  | nil => rfl
  | cons r rs ih =>
    simp only [List.map_cons, Relationship.arrow, List.lookup_cons, RelationshipSet.firstWith,
      List.find?_cons] at *
    rw [BEq.comm, ih]

/-! ## Inference -/

theorem mem_classesByNamespace {es : List Entity} {c : Entity} :
    c ∈ classesByNamespace es ↔ c ∈ es ∧ c.isClass := by
  rw [classesByNamespace, List.mem_flatMap]
  constructor
  · rintro ⟨n, _, hc⟩
    obtain ⟨hmem, hkept⟩ := List.mem_filter.1 hc
    exact ⟨hmem, (Bool.and_eq_true_iff.1 hkept).1⟩
  · rintro ⟨hmem, hclass⟩
    refine ⟨c.namespaceName, mem_namespacesOf.2 (List.mem_map_of_mem hmem), ?_⟩
    rw [classesOf, List.mem_filter, hclass, beq_self_eq_true]
    exact ⟨hmem, rfl⟩

namespace RelationshipSet

/-- What came to the set of a run. -/
def candidates (types : BuiltInTypes) (xs ys : List Entity) : List Relationship :=
  xs.flatMap (·.inheritances) ++ (NamespaceIndex.ofList ys).associations types

theorem mem_candidates_iff {types : BuiltInTypes} {xs ys : List Entity} {r : Relationship} :
    r ∈ candidates types xs ys
      ↔ (∃ e ∈ xs, r ∈ e.inheritances) ∨ ∃ e ∈ ys, e.isClass ∧ r ∈ e.associations types := by
  simp only [candidates, List.mem_append, List.mem_flatMap, NamespaceIndex.associations,
    NamespaceIndex.classes_ofList, mem_classesByNamespace, and_assoc]

theorem records_infer (types : BuiltInTypes) (xs ys : List Entity) :
    (infer types xs (.ofList ys)).Records (candidates types xs ys) :=
  records_empty.insertAll (candidates types xs ys)

theorem map_arrow_candidates (types : BuiltInTypes) (xs ys : List Entity) :
    (candidates types xs ys).map (·.arrow) = inheritanceArrows xs ++ associationArrows types ys := by
  rw [candidates, List.map_append, inheritanceArrows_eq, associationArrows_eq]

theorem lines_infer (types : BuiltInTypes) (xs ys : List Entity) :
    (infer types xs (.ofList ys)).lines
      = ((inheritanceArrows xs ++ associationArrows types ys).map (·.1)).eraseDups := by
  rw [(records_infer types xs ys).lines, ← map_arrow_candidates, List.map_map]
  rfl

/-- Every line comes from a base or from a member's type. -/
theorem exists_of_mem_lines_infer {types : BuiltInTypes} {xs ys : List Entity} {line : String}
    (h : line ∈ (infer types xs (.ofList ys)).lines) :
    (∃ c ∈ xs, ∃ b ∈ c.bases, line = c.name ++ " --|> " ++ b)
      ∨ ∃ c ∈ ys, ∃ m ∈ c.members, line = c.name ++ " --> " ++ m.type ++ " : has" := by
  rw [lines_infer, List.mem_eraseDups, List.map_append, List.mem_append] at h
  rcases h with h | h
  · left
    obtain ⟨arrow, harrow, rfl⟩ := List.mem_map.1 h
    obtain ⟨c, hc, hbase⟩ := List.mem_flatMap.1 harrow
    obtain ⟨b, hb, rfl⟩ := List.mem_map.1 hbase
    exact ⟨c, (List.mem_filter.1 hc).1, b, hb, rfl⟩
  · right
    obtain ⟨arrow, harrow, rfl⟩ := List.mem_map.1 h
    obtain ⟨c, hc, hmember⟩ := List.mem_flatMap.1 harrow
    obtain ⟨m, hm, rfl⟩ := List.mem_map.1 hmember
    exact ⟨c, (mem_classesByNamespace.1 hc).1, m, (List.mem_filter.1 hm).1, rfl⟩

/-- The lines of a run are the expected ones without repetitions, each where it
    came first, and the arrow stored for a line is the first that wrote it. -/
theorem infer_eq_firstOccurrences (types : BuiltInTypes) (xs ys : List Entity) :
    let set := infer types xs (.ofList ys)
    let arrows := inheritanceArrows xs ++ associationArrows types ys
    set.lines = (arrows.map (·.1)).eraseDups
      ∧ set.edges.map some = set.lines.map fun line => arrows.lookup line := by
  intro set arrows
  refine ⟨lines_infer types xs ys, ?_⟩
  -- what came to the set are the expected arrows, each with its own line
  rw [(records_infer types xs ys).edges]
  refine List.map_congr_left fun line _ => ?_
  rw [← lookup_map_arrow, map_arrow_candidates]

end RelationshipSet

end ClassAtlas
