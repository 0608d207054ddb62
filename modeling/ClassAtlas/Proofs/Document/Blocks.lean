import Mathlib.Data.List.Perm.Basic
import ClassAtlas.Proofs.Document.ReadBack
import ClassAtlas.Proofs.NamespaceIndex.Editing

/-! # The blocks of a document

    Between the opening and the relationships a document is one block after the
    other, one for every namespace in byte order.  A block is a function of the
    entities of its namespace alone: it is the block that they have in a document
    of their own (`Report.document_eq_blocks`).

    What comes before the first link says nothing of the files that the entities
    are in (`Report.exists_document_eq_link`).
-/

namespace ClassAtlas

/-- Declarations as the entities of one file. -/
def inFile (source : Path) (ds : List Declaration) : List Entity :=
  ds.map fun d => { d with source }

/-- The entities of a namespace, in order. -/
def inNamespace (es : List Entity) (n : String) : List Entity := es.filter (·.namespaceName == n)

theorem mem_inNamespace_iff {es : List Entity} {n : String} {e : Entity} :
    e ∈ inNamespace es n ↔ e ∈ es ∧ e.LiesIn n := by
  rw [inNamespace, List.mem_filter, beq_iff_eq, Declaration.namespaceName_eq_iff]

theorem filter_isInterface_inNamespace (es : List Entity) (n : String) :
    (inNamespace es n).filter (·.isInterface) = interfacesOf es n := by
  rw [interfacesOf, inNamespace, List.filter_filter]

theorem filter_isClass_inNamespace (es : List Entity) (n : String) :
    (inNamespace es n).filter (·.isClass) = classesOf es n := by
  rw [classesOf, inNamespace, List.filter_filter]

theorem inNamespace_inNamespace (es : List Entity) (n : String) :
    inNamespace (inNamespace es n) n = inNamespace es n := by
  simp only [inNamespace, List.filter_filter, Bool.and_self]

/-- What lies in one namespace makes one package. -/
theorem namespacesOf_inNamespace {es : List Entity} {n : String} (h : n ∈ namespacesOf es) :
    namespacesOf (inNamespace es n) = [n] := by
  refine (ascending_namespacesOf _).eq_of_mem_iff (List.pairwise_singleton _ _) fun m => ?_
  rw [mem_namespacesOf, mem_map_namespaceName_iff, List.mem_singleton]
  constructor
  · rintro ⟨e, he, hm⟩
    exact hm.namespaceName_eq.symm.trans (mem_inNamespace_iff.1 he).2.namespaceName_eq
  · rintro rfl
    obtain ⟨e, he, hlies⟩ := mem_map_namespaceName_iff.1 (mem_namespacesOf.1 h)
    exact ⟨e, mem_inNamespace_iff.2 ⟨he, hlies⟩, hlies⟩

namespace Document

/-! ## Texts of blocks -/

theorem ofLines_flatMap {α : Type} (f : α → List String) (xs : List α) :
    ofLines (xs.flatMap f) = String.join (xs.map fun x => ofLines (f x)) := by
  induction xs with
  | nil => rfl
  | cons x xs ih =>
    rw [List.flatMap_cons, ofLines_append, ih, List.map_cons, String.join_cons]

theorem ofLines_braced (head : String) (inner : List String) :
    ofLines (braced head inner) = head ++ " \x7b\n" ++ ofLines inner ++ "\x7d\n" := by
  rw [braced, ofLines_append, ← String.toList_inj]
  simp [ofLines]

/-- The block of an entity, with the blank line after it. -/
def entityBlock (cwd : Path) (e : Entity) : String := ofLines (entityLines cwd e)

/-- The text of an entity: what it is, its name, its link and its members. -/
theorem entityBlock_eq (cwd : Path) (e : Entity) :
    entityBlock cwd e
      = e.kind.keyword ++ " " ++ e.name ++ " <<Clickable>> [[" ++ Uri.ofPath cwd e.source
        ++ "]] \x7b\n" ++ ofLines (memberLines e) ++ "\x7d\n\n" := by
  rw [entityBlock, entityLines, ofLines_append, ofLines_braced, entityHead, ← String.toList_inj]
  simp [ofLines]

/-- The entities of a package as they are shown: the interfaces, then the classes. -/
def arranged (own : List Entity) : List Entity :=
  own.filter (·.isInterface) ++ own.filter (·.isClass)

/-- The block of a package with the entities `own`. -/
def packageBlock (cwd : Path) (name : String) (own : List Entity) : String :=
  "package " ++ name ++ " \x7b\n" ++ String.join ((arranged own).map (entityBlock cwd)) ++ "\x7d\n"

/-- Every entity is shown, and once. -/
theorem arranged_perm (own : List Entity) : (arranged own).Perm own := by
  have hother : ∀ e ∈ own, e.isClass = ! e.isInterface := by
    intro e _
    cases hk : e.kind <;> simp [Declaration.isClass, Declaration.isInterface, hk]
  rw [arranged, List.filter_congr hother]
  exact List.filter_append_perm _ own

theorem ofLines_packageLines (cwd : Path) (es : List Entity) (n : String) :
    ofLines (packageLines cwd (.ofNamespace es n)) = packageBlock cwd n (inNamespace es n) := by
  rw [packageLines, ofLines_braced, ofLines_flatMap, packageBlock, arranged,
    filter_isInterface_inNamespace, filter_isClass_inNamespace]
  rfl

theorem ofLines_packages (cwd : Path) (es : List Entity) :
    ofLines ((NamespaceIndex.ofList es).packages.flatMap (packageLines cwd))
      = String.join ((namespacesOf es).map fun n => packageBlock cwd n (inNamespace es n)) := by
  have hgroups := NamespaceIndex.groups_ofList es
  rw [hgroups.packages_eq, hgroups.namespaces_eq, List.flatMap_map, ofLines_flatMap]
  congr 1
  exact List.map_congr_left fun n _ => ofLines_packageLines cwd es n

end Document

open Document

namespace Report

/-- The relationships of a report, with the end of the document. -/
def relationshipSection (report : Report) : String :=
  ofLines (relationshipLines report.relationships)

theorem relationshipSection_eq (report : Report) :
    report.relationshipSection
      = "\n' Relationships\n" ++ ofLines report.relationships.lines ++ "@enduml\n" := by
  rw [relationshipSection, relationshipLines, ofLines_append, ← String.toList_inj]
  simp [ofLines, relationshipsHeading, closing]

theorem document_eq_append (cwd : Path) (types : BuiltInTypes) (es : List Entity) :
    (ofEntities cwd types es).document
      = ofLines preamble
        ++ String.join ((namespacesOf es).map fun n => packageBlock cwd n (inNamespace es n))
        ++ (ofEntities cwd types es).relationshipSection := by
  rw [document_ofEntities, lines, ofLines_append, ofLines_append, ofLines_packages]
  simp only [relationshipSection, ofEntities]

/-- A document is the opening, the blocks of the namespaces in strictly ascending
    byte order, and the relationships.  The block of a namespace has a block for
    each of its entities, the interfaces before the classes, both in the order of
    the list, and is the one package block in the document of just these entities.
    The block of an entity has its kind, its name, its link and its members. -/
theorem document_eq_blocks (cwd : Path) (types : BuiltInTypes) (es : List Entity) :
    let report := ofEntities cwd types
    let block (n : String) := packageBlock cwd n (inNamespace es n)
    (report es).document
        = ofLines preamble ++ String.join ((namespacesOf es).map block)
          ++ (report es).relationshipSection
      ∧ Ascending (namespacesOf es)
      ∧ (∀ n, n ∈ namespacesOf es ↔ ∃ e ∈ es, e.LiesIn n)
      ∧ (∀ n ∈ namespacesOf es,
          (report (inNamespace es n)).document
              = ofLines preamble ++ block n ++ (report (inNamespace es n)).relationshipSection
            ∧ (report (inNamespace es n)).index.namespaces = [n]
            ∧ (arranged (inNamespace es n)).Perm (inNamespace es n)
            ∧ ∀ e, e ∈ inNamespace es n ↔ e ∈ es ∧ e.LiesIn n)
      ∧ (∀ e, entityBlock cwd e
          = e.kind.keyword ++ " " ++ e.name ++ " <<Clickable>> [[" ++ Uri.ofPath cwd e.source
            ++ "]] \x7b\n" ++ ofLines (memberLines e) ++ "\x7d\n\n")
      ∧ (report es).relationshipSection
          = "\n' Relationships\n" ++ ofLines (report es).relationships.lines ++ "@enduml\n" := by
  intro report block
  refine ⟨document_eq_append cwd types es, ascending_namespacesOf es, fun n => ?_, fun n hn => ?_,
    entityBlock_eq cwd, relationshipSection_eq _⟩
  · rw [mem_namespacesOf, mem_map_namespaceName_iff]
  have halone := namespacesOf_inNamespace hn
  refine ⟨?_, ?_, arranged_perm _, fun e => mem_inNamespace_iff⟩
  · -- the entities of the namespace are all that its own document is made of
    have hblocks : String.join ([n].map fun m =>
        packageBlock cwd m (inNamespace (inNamespace es n) m)) = block n := by
      rw [List.map_singleton, inNamespace_inNamespace, ← String.toList_inj]
      simp [block]
    rw [document_eq_append, halone, hblocks]
  · exact (NamespaceIndex.groups_ofList _).namespaces_eq.trans halone

/-- Two namespaces whose entities come in turns, a class before an interface: the
    block of `Shop` is the only one in the document of its two entities, here in full. -/
theorem document_eq_blocks_interleaved :
    let entity (kind : DeclarationKind) (name scope : String) : Entity :=
      { kind, name, scopes := [⟨.ofNamespace, scope⟩], bases := ["IEntity"],
        members := [⟨.property, "Owner", "Person", true⟩], source := .ofString "/shop.cs" }
    let order := entity .classType "Order" "Shop"
    let person := entity .classType "Person" "People"
    let priced := entity .interfaceType "IPriced" "Shop"
    "Shop" ∈ namespacesOf [order, person, priced]
      ∧ inNamespace [order, person, priced] "Shop" = [order, priced]
      ∧ (ofEntities .top {} [order, priced]).document
        = ofLines
           ["@startuml", "' Configuration", "hide empty members", "skinparam shadowing false",
            "skinparam handwritten false", "skinparam monochrome false",
            "skinparam linetype ortho", "skinparam class \x7b",
            "    BackgroundColor<<Clickable>> #E3F2FD", "    BorderColor<<Clickable>> #1976D2",
            "    HeaderBackgroundColor<<Clickable>> #BBDEFB", "    FontSize 12",
            "    AttributeFontSize 11", "    AttributeFontColor #333333",
            "    BorderThickness 1", "\x7d", "skinparam interface \x7b",
            "    BackgroundColor<<Clickable>> #F1F8E9", "    BorderColor<<Clickable>> #689F38",
            "    HeaderBackgroundColor<<Clickable>> #DCEDC8", "    FontSize 12",
            "    AttributeFontSize 11", "    AttributeFontColor #333333",
            "    BorderThickness 1", "\x7d", "skinparam arrow \x7b", "    Color #666666",
            "    FontSize 11", "    Thickness 1", "\x7d",
            "package Shop \x7b", "interface IPriced <<Clickable>> [[file:///shop.cs]] \x7b",
            "    + Owner : Person", "\x7d", "",
            "class Order <<Clickable>> [[file:///shop.cs]] \x7b", "    + Owner : Person", "\x7d",
            "", "\x7d",
            "", "' Relationships", "Order --|> IEntity", "Order --> Person : has", "@enduml"] := by
  intro entity order person priced
  have hmem : "Shop" ∈ namespacesOf [order, person, priced] := mem_namespacesOf.2 (by decide)
  have hown : inNamespace [order, person, priced] "Shop" = [order, priced] := by decide
  obtain ⟨-, -, -, hblocks, hentity, -⟩ := document_eq_blocks .top {} [order, person, priced]
  obtain ⟨-, -, -, -, -, hrelationships⟩ := document_eq_blocks .top {} [order, priced]
  obtain ⟨hdocument, -⟩ := hblocks "Shop" hmem
  have harranged : arranged [order, priced] = [priced, order] := by decide
  have hlink : Uri.ofPath .top (.ofString "/shop.cs") = "file:///shop.cs" := by decide +kernel
  have harrows : (ofEntities .top {} [order, priced]).relationships.lines
      = ["Order --|> IEntity", "Order --> Person : has"] := by decide +kernel
  simp only [hown, packageBlock, harranged] at hdocument
  refine ⟨hmem, hown, hdocument.trans ?_⟩
  rw [hrelationships, harrows, List.map_cons, List.map_singleton, hentity, hentity, hlink]
  decide +kernel

/-! ## Declarations of one file -/

section

variable {ds : List Declaration}

/-- The first namespace of declarations is the first in whatever file they are. -/
theorem exists_namespacesOf_eq_cons (h : ds ≠ []) :
    ∃ n ns, (∃ d ∈ ds, d.namespaceName = n)
      ∧ ∀ source, namespacesOf (inFile source ds) = n :: ns := by
  have hspaces : ∀ source, namespacesOf (inFile source ds)
      = (ds.map (·.namespaceName)).dedup.mergeSort byteLe := by
    intro source
    rw [namespacesOf, inFile, List.map_map]
    rfl
  have hmem : ∀ n, n ∈ (ds.map (·.namespaceName)).dedup.mergeSort byteLe
      ↔ ∃ d ∈ ds, d.namespaceName = n := by
    intro n
    rw [List.mem_mergeSort, List.mem_dedup, List.mem_map]
  obtain ⟨d, hd⟩ := List.exists_mem_of_ne_nil ds h
  obtain ⟨n, ns, hcons⟩ := List.exists_cons_of_ne_nil
    (List.ne_nil_of_mem ((hmem d.namespaceName).2 ⟨d, hd, rfl⟩))
  refine ⟨n, ns, (hmem n).1 ?_, fun source => (hspaces source).trans hcons⟩
  rw [hcons]
  exact List.mem_cons_self

/-- So is the first declaration that is shown of a namespace. -/
theorem exists_arranged_eq_inFile {n : String} (h : ∃ d ∈ ds, d.namespaceName = n) :
    ∃ d rest, ∀ source, arranged (inNamespace (inFile source ds) n) = inFile source (d :: rest) := by
  obtain ⟨e, he, hname⟩ := h
  have hshown : ∃ shown : List Declaration, e ∈ shown
      ∧ ∀ source, arranged (inNamespace (inFile source ds) n) = inFile source shown := by
    refine ⟨(ds.filter (·.namespaceName == n)).filter (·.isInterface)
      ++ (ds.filter (·.namespaceName == n)).filter (·.isClass), ?_, fun source => ?_⟩
    · cases hkind : e.kind <;>
        simp [he, hname, Declaration.isInterface, Declaration.isClass, hkind]
    · simp only [arranged, inNamespace, inFile, List.filter_map, List.map_append]
      rfl
  obtain ⟨shown, hmem, harranged⟩ := hshown
  obtain ⟨d, rest, hcons⟩ := List.exists_cons_of_ne_nil (List.ne_nil_of_mem hmem)
  refine ⟨d, rest, fun source => ?_⟩
  rw [harranged, hcons]

/-- Up to its first link the document of the declarations of one file is the same
    for all files. -/
theorem exists_document_eq_link (h : ds ≠ []) (cwd : Path) (types : BuiltInTypes) :
    ∃ front : String, ∀ source : Path, ∃ back : String,
      (ofEntities cwd types (inFile source ds)).document
        = front ++ Uri.ofPath cwd source ++ "]]" ++ back := by
  obtain ⟨n, ns, hname, hspaces⟩ := exists_namespacesOf_eq_cons h
  obtain ⟨d, rest, harranged⟩ := exists_arranged_eq_inFile hname
  refine ⟨ofLines preamble ++ "package " ++ n ++ " \x7b\n" ++ d.kind.keyword ++ " " ++ d.name
    ++ " <<Clickable>> [[", fun source => ?_⟩
  refine ⟨" \x7b\n" ++ ofLines (memberLines { d with source }) ++ "\x7d\n\n"
    ++ String.join ((inFile source rest).map (entityBlock cwd)) ++ "\x7d\n"
    ++ String.join (ns.map fun m => packageBlock cwd m (inNamespace (inFile source ds) m))
    ++ (ofEntities cwd types (inFile source ds)).relationshipSection, ?_⟩
  rw [document_eq_append, hspaces, List.map_cons, packageBlock, harranged, inFile, List.map_cons,
    List.map_cons, entityBlock_eq, ← inFile, ← String.toList_inj]
  simp

end

end Report

end ClassAtlas
