import Mathlib.Logic.Relation
import ClassAtlas.Proofs.Document.ReadBack
import ClassAtlas.Proofs.Path.Absolute

/-! # Edits that no document shows

    Much of an entity can change without a change of the document: the scopes
    around its namespace, the bases of an interface and what only classes show
    of members, the spelling of its file's path.  `Entity.SilentEdit` lists
    these edits.

    One such edit leaves an entity alike (`Entity.SilentEdit.alike`): what its
    lines are made of stays the same.  So does any run of them, and lists that
    are alike entity by entity have one document (`Report.document_of_alike`).
-/

namespace ClassAtlas

/-! ## The edits -/

/-- An edit of members that stand side by side.  What an interface shows of a
    member says nothing of its visibility, of the type of a method or of fields;
    a class shows a field as it shows a property. -/
inductive Member.SilentEdit : DeclarationKind → List Member → List Member → Prop where
  | addField (m : Member) (h : m.kind = .field) : SilentEdit .interfaceType [] [m]
  | dropField (m : Member) (h : m.kind = .field) : SilentEdit .interfaceType [m] []
  | setVisibility (m : Member) (isPublic : Bool) :
      SilentEdit .interfaceType [m] [{ m with isPublic }]
  | setReturnType (m : Member) (h : m.kind = .method) (type : String) :
      SilentEdit .interfaceType [m] [{ m with type }]
  | toProperty (m : Member) (h : m.kind = .field) :
      SilentEdit .classType [m] [{ m with kind := .property }]
  | toField (m : Member) (h : m.kind = .property) :
      SilentEdit .classType [m] [{ m with kind := .field }]

/-- One edit of an entity that no document shows. -/
inductive Entity.SilentEdit (cwd : Path) : Entity → Entity → Prop where
  /-- The scopes become others around the same namespace. -/
  | setScopes (e : Entity) (scopes : List Scope)
      (h : Declaration.namespaceName { e.toDeclaration with scopes } = e.namespaceName) :
      SilentEdit cwd e { e with scopes }
  /-- An interface gets other bases. -/
  | setBases (e : Entity) (h : e.isInterface) (bases : List String) :
      SilentEdit cwd e { e with bases }
  /-- Somewhere among the members one is added, dropped or changed. -/
  | setMembers (e : Entity) (front old new back : List Member)
      (hmembers : e.members = front ++ old ++ back) (hedit : Member.SilentEdit e.kind old new) :
      SilentEdit cwd e { e with members := front ++ new ++ back }
  /-- The path of the file is made absolute. -/
  | absolutize (e : Entity) : SilentEdit cwd e { e with source := Path.absolute cwd e.source }

/-! ## Entities alike -/

/-- A document and its arrows draw the same from both entities. -/
structure Entity.Alike (cwd : Path) (e d : Entity) : Prop where
  kind : d.kind = e.kind
  namespaceName : d.namespaceName = e.namespaceName
  outline : d.outline cwd = e.outline cwd
  inheritances : d.inheritances = e.inheritances
  /-- Of an interface nobody asks for associations. -/
  associations : e.isClass → ∀ types, d.associations types = e.associations types

theorem Entity.Alike.refl (cwd : Path) (e : Entity) : e.Alike cwd e where
  kind := rfl
  namespaceName := rfl
  outline := rfl
  inheritances := rfl
  associations _ _ := rfl

theorem Entity.Alike.isClass {cwd : Path} {e d : Entity} (h : e.Alike cwd d) :
    d.isClass = e.isClass := by
  rw [Declaration.isClass, Declaration.isClass, h.kind]

theorem Entity.Alike.trans {cwd : Path} {e d c : Entity} (h : e.Alike cwd d) (h' : d.Alike cwd c) :
    e.Alike cwd c where
  kind := h'.kind.trans h.kind
  namespaceName := h'.namespaceName.trans h.namespaceName
  outline := h'.outline.trans h.outline
  inheritances := h'.inheritances.trans h.inheritances
  associations hclass types :=
    (h'.associations (h.isClass.trans hclass) types).trans (h.associations hclass types)

namespace Member.SilentEdit

variable {old new : List Member}

theorem filterMap_interfaceMember? (h : SilentEdit .interfaceType old new) :
    new.filterMap Document.interfaceMember? = old.filterMap Document.interfaceMember? := by
  cases h with
  | addField m hk => simp [Document.interfaceMember?, hk]
  | dropField m hk => simp [Document.interfaceMember?, hk]
  | setVisibility m isPublic => rfl
  | setReturnType m hk type => simp [Document.interfaceMember?, hk]

theorem map_classMember (h : SilentEdit .classType old new) :
    new.map (Document.indented <| Document.classMember ·)
      = old.map (Document.indented <| Document.classMember ·) := by
  cases h with
  | toProperty m hk => simp [Document.classMember, Member.marker, hk]
  | toField m hk => simp [Document.classMember, Member.marker, hk]

/-- A field and a property of one type make the same association. -/
theorem map_association (h : SilentEdit .classType old new) (types : BuiltInTypes)
    (arrow : Member → Relationship) (harrow : ∀ m kind, arrow { m with kind } = arrow m) :
    (new.filter fun m => m.isStored && ! types.contains m.type).map arrow
      = (old.filter fun m => m.isStored && ! types.contains m.type).map arrow := by
  cases h with
  | toProperty m hk =>
    by_cases hbuiltIn : types.contains m.type <;> simp [Member.isStored, hk, hbuiltIn, harrow]
  | toField m hk =>
    by_cases hbuiltIn : types.contains m.type <;> simp [Member.isStored, hk, hbuiltIn, harrow]

end Member.SilentEdit

namespace Entity

variable {cwd : Path} {e d : Entity} {front old new back : List Member}

theorem memberLines_setMembers (hmembers : e.members = front ++ old ++ back)
    (hedit : Member.SilentEdit e.kind old new) :
    Document.memberLines { e with members := front ++ new ++ back } = Document.memberLines e := by
  unfold Document.memberLines
  cases hkind : e.kind with
  | classType =>
    rw [hkind] at hedit
    simp only [hmembers, List.map_append, hedit.map_classMember]
  | interfaceType =>
    rw [hkind] at hedit
    simp only [hmembers, List.filterMap_append, hedit.filterMap_interfaceMember?]

theorem associations_setMembers (hclass : e.isClass) (hmembers : e.members = front ++ old ++ back)
    (hedit : Member.SilentEdit e.kind old new) (types : BuiltInTypes) :
    associations types { e with members := front ++ new ++ back } = e.associations types := by
  have hkind : e.kind = .classType := eq_of_beq hclass
  rw [hkind] at hedit
  have hnew := hedit.map_association types (⟨.association, e.name, ·.type⟩) fun _ _ => rfl
  simp only [associations, hmembers, List.filter_append, List.map_append, hnew]

/-- One edit leaves the entity alike. -/
theorem SilentEdit.alike (hcwd : cwd.Settled) (h : SilentEdit cwd e d) : e.Alike cwd d := by
  cases h with
  | setScopes scopes h =>
    exact { Alike.refl cwd e with namespaceName := h }
  | setBases h bases =>
    -- inheritances are drawn for classes only
    have hnot : ¬ e.isClass := by
      have hkind : e.kind = .interfaceType := eq_of_beq h
      rw [Declaration.isClass, hkind]
      decide
    have hnone (bs : List String) : inheritances { e with bases := bs } = [] := if_neg hnot
    exact { Alike.refl cwd e with inheritances := (hnone bases).trans (hnone e.bases).symm }
  | setMembers front old new back hmembers hedit =>
    have hlines := memberLines_setMembers hmembers hedit
    refine { Alike.refl cwd e with
      outline := ?_
      associations := fun hclass types => associations_setMembers hclass hmembers hedit types }
    simp only [outline, hlines]
  | absolutize =>
    refine { Alike.refl cwd e with outline := ?_ }
    simp only [outline, Uri.ofPath_absolute hcwd]
    rfl

/-- So does a run of edits. -/
theorem alike_of_silentEdits (hcwd : cwd.Settled)
    (h : Relation.ReflTransGen (SilentEdit cwd) e d) : e.Alike cwd d := by
  induction h with
  | refl => exact Alike.refl cwd e
  | tail _ hlast ih => exact ih.trans (hlast.alike hcwd)

end Entity

/-! ## Lists alike -/

section

variable {cwd : Path} {es ds : List Entity}

/-- What is taken from the entities that pass a test, where neither the test nor
    what is taken tells entities apart that are alike. -/
theorem map_filter_eq_of_alike {α : Type} (h : List.Forall₂ (Entity.Alike cwd) es ds)
    (test : Entity → Bool) (view : Entity → α)
    (htest : ∀ e d : Entity, e.Alike cwd d → test d = test e)
    (hview : ∀ e d : Entity, e.Alike cwd d → test e → view d = view e) :
    (ds.filter test).map view = (es.filter test).map view := by
  induction h with
  | nil => rfl
  | @cons e d es ds halike _ ih =>
    rw [List.filter_cons, List.filter_cons, htest e d halike]
    by_cases hpass : test e
    · rw [if_pos hpass, if_pos hpass, List.map_cons, List.map_cons, hview e d halike hpass, ih]
    · rw [if_neg hpass, if_neg hpass, ih]

theorem map_eq_of_alike {α : Type} (h : List.Forall₂ (Entity.Alike cwd) es ds) (view : Entity → α)
    (hview : ∀ e d : Entity, e.Alike cwd d → view d = view e) : ds.map view = es.map view := by
  have hall := map_filter_eq_of_alike h (fun _ => true) view (fun _ _ _ => rfl)
    fun e d halike _ => hview e d halike
  rwa [List.filter_true, List.filter_true] at hall

theorem namespacesOf_eq_of_alike (h : List.Forall₂ (Entity.Alike cwd) es ds) :
    namespacesOf ds = namespacesOf es := by
  rw [namespacesOf, map_eq_of_alike h (·.namespaceName) fun _ _ halike => halike.namespaceName,
    ← namespacesOf]

theorem map_interfacesOf_eq_of_alike {α : Type} (h : List.Forall₂ (Entity.Alike cwd) es ds)
    (n : String) (view : Entity → α) (hview : ∀ e d : Entity, e.Alike cwd d → view d = view e) :
    (interfacesOf ds n).map view = (interfacesOf es n).map view := by
  refine map_filter_eq_of_alike h _ view (fun e d halike => ?_) fun e d halike _ =>
    hview e d halike
  rw [Declaration.isInterface, Declaration.isInterface, halike.kind, halike.namespaceName]

theorem map_classesOf_eq_of_alike {α : Type} (h : List.Forall₂ (Entity.Alike cwd) es ds)
    (n : String) (view : Entity → α)
    (hview : ∀ e d : Entity, e.Alike cwd d → e.isClass → view d = view e) :
    (classesOf ds n).map view = (classesOf es n).map view := by
  refine map_filter_eq_of_alike h _ view (fun e d halike => ?_) fun e d halike hpass =>
    hview e d halike (Bool.and_eq_true_iff.1 hpass).1
  rw [halike.isClass, halike.namespaceName]

theorem map_outline_packages_eq_of_alike (h : List.Forall₂ (Entity.Alike cwd) es ds) :
    (NamespaceIndex.ofList ds).packages.map (·.outline cwd)
      = (NamespaceIndex.ofList es).packages.map (·.outline cwd) := by
  have hds := NamespaceIndex.groups_ofList ds
  have hes := NamespaceIndex.groups_ofList es
  rw [hds.packages_eq, hes.packages_eq, hds.namespaces_eq, hes.namespaces_eq,
    namespacesOf_eq_of_alike h, List.map_map, List.map_map]
  refine List.map_congr_left fun n _ => ?_
  have hinterfaces := map_interfacesOf_eq_of_alike h n (·.outline cwd) fun _ _ halike =>
    halike.outline
  have hclasses := map_classesOf_eq_of_alike h n (·.outline cwd) fun _ _ halike _ =>
    halike.outline
  simp only [Function.comp, Package.outline, Package.ofNamespace, hinterfaces, hclasses]

theorem infer_eq_of_alike (h : List.Forall₂ (Entity.Alike cwd) es ds) (types : BuiltInTypes) :
    RelationshipSet.infer types ds (.ofList ds) = RelationshipSet.infer types es (.ofList es) := by
  have hinheritances : ds.flatMap (·.inheritances) = es.flatMap (·.inheritances) := by
    rw [List.flatMap_def, List.flatMap_def,
      map_eq_of_alike h (·.inheritances) fun _ _ halike => halike.inheritances]
  have hassociations : (NamespaceIndex.ofList ds).associations types
      = (NamespaceIndex.ofList es).associations types := by
    rw [NamespaceIndex.associations, NamespaceIndex.associations, NamespaceIndex.classes_ofList,
      NamespaceIndex.classes_ofList, classesByNamespace, classesByNamespace,
      namespacesOf_eq_of_alike h, List.flatMap_assoc, List.flatMap_assoc]
    refine List.flatMap_congr fun n _ => ?_
    rw [List.flatMap_def, List.flatMap_def,
      map_classesOf_eq_of_alike h n (·.associations types) fun _ _ halike hclass =>
        halike.associations hclass types]
  rw [RelationshipSet.infer, hinheritances, hassociations]
  rfl

end

namespace Report

theorem document_of_alike {cwd : Path} {es ds : List Entity}
    (h : List.Forall₂ (Entity.Alike cwd) es ds) (types : BuiltInTypes) :
    (ofEntities cwd types ds).document = (ofEntities cwd types es).document := by
  apply document_eq_of_outline_eq
  simp only [outline, Outline.ofDocument, ofEntities, map_outline_packages_eq_of_alike h,
    infer_eq_of_alike h]

/-- The document of a list stays the same text when its entities go through any
    number of silent edits, each through its own and all at once. -/
theorem document_of_silentEdits {cwd : Path} (hcwd : cwd.Settled) (types : BuiltInTypes)
    {es ds : List Entity}
    (h : List.Forall₂ (Relation.ReflTransGen (Entity.SilentEdit cwd)) es ds) :
    (ofEntities cwd types ds).document = (ofEntities cwd types es).document :=
  document_of_alike (h.imp fun _ _ hedits => Entity.alike_of_silentEdits hcwd hedits) types

/-- An interface outside of all namespaces is put into `Global` by name, loses
    its base and gets a field, and its method becomes public with another type;
    a field of a class becomes a property, and both files get absolute paths. -/
theorem document_of_silentEdits_shapes :
    let cwd : Path := .ofString "/work"
    let shape : Entity :=
      { kind := .interfaceType, name := "IShape", scopes := [⟨.ofType, "Host"⟩],
        members := [⟨.method, "Area", "int", false⟩], bases := ["IOld"],
        source := .ofString "lib/./shapes.cs" }
    let circle : Entity :=
      { kind := .classType, name := "Circle", members := [⟨.field, "Radius", "Length", true⟩],
        bases := ["IShape"], source := .ofString "lib//circle.cs" }
    let shape' : Entity :=
      { shape with
        scopes := [⟨.ofNamespace, "Outer"⟩, ⟨.ofNamespace, "Global"⟩, ⟨.ofType, "Host"⟩]
        members := [⟨.field, "cache", "Mesh", false⟩, ⟨.method, "Area", "double", true⟩]
        bases := []
        source := .ofString "/work/lib/shapes.cs" }
    let circle' : Entity :=
      { circle with
        members := [⟨.property, "Radius", "Length", true⟩]
        source := .ofString "/work/lib/circle.cs" }
    cwd.Settled
      ∧ List.Forall₂ (Relation.ReflTransGen (Entity.SilentEdit cwd)) [shape, circle] [shape', circle']
      ∧ (ofEntities cwd {} [shape', circle']).document
        = (ofEntities cwd {} [shape, circle]).document := by
  intro cwd shape circle shape' circle'
  have hcwd : cwd.Settled := by decide
  have hshape : Relation.ReflTransGen (Entity.SilentEdit cwd) shape shape' := by
    apply Relation.ReflTransGen.head (.setScopes _ shape'.scopes rfl)
    apply Relation.ReflTransGen.head (.setBases _ rfl [])
    apply Relation.ReflTransGen.head (.setMembers _ [] [] _ shape.members rfl
      (.addField ⟨.field, "cache", "Mesh", false⟩ rfl))
    apply Relation.ReflTransGen.head (.setMembers _ (shape'.members.take 1) _ _ [] rfl
      (.setVisibility ⟨.method, "Area", "int", false⟩ true))
    apply Relation.ReflTransGen.head (.setMembers _ (shape'.members.take 1) _ _ [] rfl
      (.setReturnType ⟨.method, "Area", "int", true⟩ rfl "double"))
    exact Relation.ReflTransGen.single (.absolutize _)
  have hcircle : Relation.ReflTransGen (Entity.SilentEdit cwd) circle circle' := by
    apply Relation.ReflTransGen.head (.setMembers _ [] _ _ [] rfl
      (.toProperty ⟨.field, "Radius", "Length", true⟩ rfl))
    exact Relation.ReflTransGen.single (.absolutize _)
  have hall := List.Forall₂.cons hshape (.cons hcircle .nil)
  exact ⟨hcwd, hall, document_of_silentEdits hcwd {} hall⟩

end Report

end ClassAtlas
