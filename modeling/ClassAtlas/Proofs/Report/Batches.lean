import ClassAtlas.Proofs.NamespaceIndex.Editing
import ClassAtlas.Proofs.Relationship.Inference
import ClassAtlas.Report

/-! # Batches of entities

    A line stands in a report just if an entity of the list draws it, whatever
    stands before and behind that entity (`RelationshipSet.mem_lines_infer_iff`).
    So reports of several batches combine as unions, more entities never take a
    line away, and neither order nor repetition matters to the set of lines.
-/

namespace ClassAtlas

/-! ## Who draws a line -/

/-- The entity is a class that has a base, or a stored member of a type that is
    not built-in, which makes the line. -/
def Entity.Draws (types : BuiltInTypes) (e : Entity) (line : String) : Prop :=
  e.isClass ∧ ∃ r ∈ e.inheritances ++ e.associations types, r.text = line

namespace RelationshipSet

/-- A set keeps every text that came to it, first or not. -/
theorem mem_lines_infer_iff {types : BuiltInTypes} {es : List Entity} {line : String} :
    line ∈ (infer types es (.ofList es)).lines ↔ ∃ e ∈ es, e.Draws types line := by
  rw [(records_infer types es es).lines, List.mem_eraseDups, List.mem_map]
  constructor
  · rintro ⟨r, hr, rfl⟩
    rcases mem_candidates_iff.1 hr with ⟨e, he, hr⟩ | ⟨e, he, hclass, hr⟩
    · have hclass := (Entity.mem_inheritances_iff.1 hr).1
      exact ⟨e, he, hclass, r, List.mem_append_left _ hr, rfl⟩
    · exact ⟨e, he, hclass, r, List.mem_append_right _ hr, rfl⟩
  · rintro ⟨e, he, hclass, r, hr, rfl⟩
    refine ⟨r, mem_candidates_iff.2 ?_, rfl⟩
    rcases List.mem_append.1 hr with hr | hr
    · exact .inl ⟨e, he, hr⟩
    · exact .inr ⟨e, he, hclass, hr⟩

theorem lines_infer_subset {types : BuiltInTypes} {xs ys : List Entity} (h : xs ⊆ ys) :
    (infer types xs (.ofList xs)).lines ⊆ (infer types ys (.ofList ys)).lines := by
  intro line hline
  obtain ⟨e, he, hdraws⟩ := mem_lines_infer_iff.1 hline
  exact mem_lines_infer_iff.2 ⟨e, h he, hdraws⟩

end RelationshipSet

namespace NamespaceIndex

theorem mem_namespaces_ofList {es : List Entity} {n : String} :
    n ∈ (ofList es).namespaces ↔ ∃ e ∈ es, e.LiesIn n := by
  rw [(groups_ofList es).mem_namespaces, mem_map_namespaceName_iff]

theorem namespaces_ofList_subset {xs ys : List Entity} (h : xs ⊆ ys) :
    (ofList xs).namespaces ⊆ (ofList ys).namespaces := by
  intro n hn
  obtain ⟨e, he, hlies⟩ := mem_namespaces_ofList.1 hn
  exact mem_namespaces_ofList.2 ⟨e, h he, hlies⟩

end NamespaceIndex

/-! ## Two batches -/

namespace Report

/-- The report on two batches has the lines of both reports and no other, the
    namespaces of both and no other, and counts as many classes and interfaces
    as the two.  More entities, wherever they come in, leave every line and
    package in place, and lists of the same entities, in any order and however
    often each, have the same set of lines. -/
theorem ofEntities_append (cwd : Path) (types : BuiltInTypes) (xs ys : List Entity) :
    let report := ofEntities cwd types
    (∀ line, line ∈ (report (xs ++ ys)).relationships.lines
        ↔ line ∈ (report xs).relationships.lines ∨ line ∈ (report ys).relationships.lines)
      ∧ (∀ n, n ∈ (report (xs ++ ys)).index.namespaces
        ↔ n ∈ (report xs).index.namespaces ∨ n ∈ (report ys).index.namespaces)
      ∧ (report (xs ++ ys)).index.classCount
        = (report xs).index.classCount + (report ys).index.classCount
      ∧ (report (xs ++ ys)).index.interfaceCount
        = (report xs).index.interfaceCount + (report ys).index.interfaceCount
      ∧ (∀ es, xs ⊆ es →
          (report xs).relationships.lines ⊆ (report es).relationships.lines
            ∧ (report xs).index.namespaces ⊆ (report es).index.namespaces)
      ∧ ∀ es, (∀ e, e ∈ es ↔ e ∈ xs) →
          ∀ line, line ∈ (report es).relationships.lines
            ↔ line ∈ (report xs).relationships.lines := by
  intro report
  have hcounts (es : List Entity) := NamespaceIndex.mirrors_ofList es
  refine ⟨fun line => ?_, fun n => ?_, ?_, ?_, fun es h => ⟨?_, ?_⟩, fun es h line => ⟨?_, ?_⟩⟩
  · simp only [report, ofEntities, RelationshipSet.mem_lines_infer_iff, List.mem_append,
      or_and_right, exists_or]
  · simp only [report, ofEntities, NamespaceIndex.mem_namespaces_ofList, List.mem_append,
      or_and_right, exists_or]
  · simp only [report, ofEntities, (hcounts _).classCount, List.countP_append]
  · simp only [report, ofEntities, (hcounts _).interfaceCount, List.countP_append]
  · exact RelationshipSet.lines_infer_subset h
  · exact NamespaceIndex.namespaces_ofList_subset h
  · exact fun hline => RelationshipSet.lines_infer_subset (fun e he => (h e).1 he) hline
  · exact fun hline => RelationshipSet.lines_infer_subset (fun e he => (h e).2 he) hline

/-- A batch of one class, and a list that has the class twice behind another
    whose base it is: the inheritance and the association of the batch stay. -/
theorem ofEntities_append_again :
    let entity (name : String) (bases : List String) (type : String) : Entity :=
      { kind := .classType, name, bases, source := .ofString "/shop.cs",
        members := [⟨.field, "x", type, false⟩] }
    let order := entity "Order" ["Entity"] "Customer"
    let invoice := entity "Invoice" ["Order"] "int"
    [order] ⊆ [invoice, order, order]
      ∧ (ofEntities .top {} [order]).relationships.lines
        ⊆ (ofEntities .top {} [invoice, order, order]).relationships.lines
      ∧ "Order --> Customer : has" ∈ (ofEntities .top {} [order]).relationships.lines := by
  intro entity order invoice
  have h : [order] ⊆ [invoice, order, order] := by decide
  refine ⟨h, ((ofEntities_append .top {} [order] []).2.2.2.2.1 _ h).1, ?_⟩
  decide

end Report

end ClassAtlas
