import ClassAtlas.Proofs.NamespaceIndex.Editing
import ClassAtlas.Proofs.Relationship.Inference
import ClassAtlas.Report

/-! # Entities in another order

    Of the order of its entities a report keeps two things: the order of the
    classes, which the inheritances follow, and within each namespace the order
    of the interfaces.  Interfaces may pass classes, and interfaces of other
    namespaces, without a trace (`Report.ofEntities_of_reordered`).
-/

namespace ClassAtlas

/-- `ys` has the entities of `xs` in an order that keeps the classes in theirs,
    and so the interfaces of each namespace. -/
structure Reordered (xs ys : List Entity) : Prop where
  perm : ys.Perm xs
  classes : ys.filter (·.isClass) = xs.filter (·.isClass)
  interfaces : ∀ n, interfacesOf ys n = interfacesOf xs n

/-- Only a namespace of the entities can have interfaces among them. -/
theorem reordered_iff {xs ys : List Entity} :
    Reordered xs ys ↔ ys.Perm xs ∧ ys.filter (·.isClass) = xs.filter (·.isClass)
      ∧ ∀ n ∈ xs.map (·.namespaceName), interfacesOf ys n = interfacesOf xs n := by
  constructor
  · intro h
    exact ⟨h.perm, h.classes, fun n _ => h.interfaces n⟩
  · rintro ⟨hperm, hclasses, hinterfaces⟩
    refine ⟨hperm, hclasses, fun n => ?_⟩
    by_cases hn : n ∈ xs.map (·.namespaceName)
    · exact hinterfaces n hn
    · have hn' : n ∉ ys.map (·.namespaceName) := by
        rwa [(hperm.map _).mem_iff]
      rw [mem_map_namespaceName_iff_ne_nil, not_or, not_not] at hn hn'
      rw [hn.1, hn'.1]

instance (xs ys : List Entity) : Decidable (Reordered xs ys) :=
  decidable_of_iff _ reordered_iff.symm

/-! ## The order of the classes -/

/-- The classes of a namespace are found among the classes. -/
theorem classesOf_eq_filter (es : List Entity) (n : String) :
    classesOf es n = (es.filter (·.isClass)).filter (·.namespaceName == n) := by
  rw [List.filter_filter, classesOf]
  exact List.filter_congr fun e _ => Bool.and_comm _ _

namespace Reordered

variable {xs ys : List Entity}

theorem classesOf_eq (h : Reordered xs ys) (n : String) : classesOf ys n = classesOf xs n := by
  rw [classesOf_eq_filter, classesOf_eq_filter, h.classes]

theorem ofList_eq (h : Reordered xs ys) : NamespaceIndex.ofList ys = NamespaceIndex.ofList xs := by
  have hgroups := NamespaceIndex.groups_ofList ys
  rw [hgroups.eq_iff (NamespaceIndex.groups_ofList xs)]
  intro n
  exact ⟨h.interfaces n, h.classesOf_eq n⟩

theorem inheritances_eq (h : Reordered xs ys) :
    ys.flatMap (·.inheritances) = xs.flatMap (·.inheritances) := by
  rw [flatMap_inheritances_eq_filter, h.classes, ← flatMap_inheritances_eq_filter]

/-- Beside the index, inference looks at nothing but the inheritances. -/
theorem infer_eq (h : Reordered xs ys) (types : BuiltInTypes) (index : NamespaceIndex) :
    RelationshipSet.infer types ys index = RelationshipSet.infer types xs index := by
  rw [RelationshipSet.infer, RelationshipSet.infer, h.inheritances_eq]

end Reordered

namespace Report

/-- An order that respects the classes, and the interfaces of each namespace,
    leaves no trace: the documents are the same text, and the indices and the
    relationships are equal. -/
theorem ofEntities_of_reordered (cwd : Path) (types : BuiltInTypes) {xs ys : List Entity}
    (h : Reordered xs ys) :
    let report := ofEntities cwd types xs
    let report' := ofEntities cwd types ys
    report'.document = report.document
      ∧ report'.index = report.index
      ∧ report'.relationships = report.relationships := by
  intro report report'
  -- a document is made from the index and the relationships alone
  have heq : report' = report := by
    simp only [report, report', ofEntities, h.ofList_eq, h.infer_eq]
  rw [heq]
  exact ⟨rfl, rfl, rfl⟩

/-- An interface goes behind a class that shares its namespace, and behind an
    interface that does not; the second interface of its namespace stays behind it. -/
theorem ofEntities_of_reordered_shelf :
    let entity (kind : DeclarationKind) (name scope : String) : Entity :=
      { kind, name, scopes := [⟨.ofNamespace, scope⟩], bases := ["IReadable"],
        members := [⟨.property, "Author", "Person", true⟩], source := .ofString "/lib.cs" }
    let readable := entity .interfaceType "IReadable" "Shelf"
    let bound := entity .interfaceType "IBound" "Shelf"
    let person := entity .interfaceType "IPerson" "People"
    let book := entity .classType "Book" "Shelf"
    let map := entity .classType "Map" "Shelf"
    Reordered [readable, book, person, bound, map] [person, book, map, readable, bound]
      ∧ (ofEntities .top {} [person, book, map, readable, bound]).document
        = (ofEntities .top {} [readable, book, person, bound, map]).document := by
  intro entity readable bound person book map
  have h : Reordered [readable, book, person, bound, map] [person, book, map, readable, bound] := by
    decide
  exact ⟨h, (ofEntities_of_reordered .top {} h).1⟩

end Report

end ClassAtlas
