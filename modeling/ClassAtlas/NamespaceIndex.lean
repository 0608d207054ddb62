import ClassAtlas.Declaration

/-! # The namespace index

    Groups entities into packages, one for each namespace.  Packages stand
    in ascending byte order of their names; within a package the interfaces and
    the classes keep the order in which they came.
-/

namespace ClassAtlas

/-- Byte order of texts. -/
def byteLt (s t : String) : Bool := decide (Utf8.encode s < Utf8.encode t)

/-- The entities of one namespace. -/
structure Package where
  name : String
  interfaces : List Entity := []
  classes : List Entity := []
  deriving DecidableEq, Repr

/-- The package with one more entity, last of its kind. -/
def Package.insert (p : Package) (e : Entity) : Package :=
  match e.kind with
  | .interfaceType => { p with interfaces := p.interfaces ++ [e] }
  | .classType => { p with classes := p.classes ++ [e] }

/-- Whether two packages hold the same entities in the same order. -/
def Package.sameAs (p other : Package) : Bool :=
  p.name == other.name && p.interfaces.isEqv other.interfaces Entity.sameAs
    && p.classes.isEqv other.classes Entity.sameAs

/-- The packages of a set of entities, by namespace. -/
structure NamespaceIndex where
  packages : List Package := []
  deriving DecidableEq, Repr

namespace NamespaceIndex

def empty : NamespaceIndex := {}

/-- Puts an entity into its package, which is made where it is missing. -/
def insertInto (e : Entity) : List Package → List Package
  | [] => [Package.insert { name := e.namespaceName } e]
  | p :: ps =>
    if p.name = e.namespaceName then p.insert e :: ps
    else if byteLt e.namespaceName p.name then
      Package.insert { name := e.namespaceName } e :: p :: ps
    else p :: insertInto e ps

/-- The index with one more entity. -/
def insert (index : NamespaceIndex) (e : Entity) : NamespaceIndex :=
  ⟨insertInto e index.packages⟩

/-- The index of a list of entities. -/
def ofList (es : List Entity) : NamespaceIndex := es.foldl insert empty

/-- The package of a namespace. -/
def get? (index : NamespaceIndex) (name : String) : Option Package :=
  index.packages.find? (·.name == name)

/-- The names of the packages, in order. -/
def namespaces (index : NamespaceIndex) : List String := index.packages.map (·.name)

/-- How many interfaces all packages hold. -/
def interfaceCount (index : NamespaceIndex) : Nat :=
  index.packages.foldr (·.interfaces.length + ·) 0

/-- How many classes all packages hold. -/
def classCount (index : NamespaceIndex) : Nat :=
  index.packages.foldr (·.classes.length + ·) 0

/-- Whether two indices hold the same packages. -/
def sameAs (index other : NamespaceIndex) : Bool :=
  index.packages.isEqv other.packages Package.sameAs

def isEmpty (index : NamespaceIndex) : Bool := index.packages.isEmpty

end NamespaceIndex

end ClassAtlas
