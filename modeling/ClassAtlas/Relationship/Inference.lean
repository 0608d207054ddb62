import ClassAtlas.BuiltInTypes
import ClassAtlas.NamespaceIndex
import ClassAtlas.Relationship

/-! # Inferring relationships

    Every base type of a class makes an inheritance, and every field or
    property of a class whose type is not built-in an association.  Interfaces
    and methods make none.

    The inheritances come first, in the order of the entities; the
    associations follow in the order of the index.
-/

namespace ClassAtlas

/-- The inheritances of an entity, if it is a class. -/
def Entity.inheritances (e : Entity) : List Relationship :=
  if e.isClass then e.bases.map (⟨.inheritance, e.name, ·⟩) else []

/-- Whether a member holds a value of its type. -/
def Member.isStored (m : Member) : Bool :=
  match m.kind with
  | .field | .property => true
  | .method => false

/-- The associations of a class. -/
def Entity.associations (types : BuiltInTypes) (e : Entity) : List Relationship :=
  (e.members.filter fun m => m.isStored && ! types.contains m.type).map
    (⟨.association, e.name, ·.type⟩)

namespace NamespaceIndex

/-- The classes of all packages, package by package. -/
def classes (index : NamespaceIndex) : List Entity :=
  index.packages.flatMap (·.classes)

/-- The associations of all classes. -/
def associations (types : BuiltInTypes) (index : NamespaceIndex) : List Relationship :=
  index.classes.flatMap (·.associations types)

end NamespaceIndex

namespace RelationshipSet

/-- The relationships of a run. -/
def infer (types : BuiltInTypes) (es : List Entity) (index : NamespaceIndex) :
    RelationshipSet :=
  empty.insertAll (es.flatMap (·.inheritances) ++ index.associations types)

end RelationshipSet

end ClassAtlas
