import ClassAtlas.Path.Basic

/-! # Declarations

    The classes and interfaces that a diagram shows, as a source parser found
    them: the scopes around each, its members, its base types and the file that
    holds it.
-/

namespace ClassAtlas

/-! ## Parts of a declaration -/

inductive DeclarationKind where
  | classType
  | interfaceType
  deriving DecidableEq, Repr

/-- The word that introduces a declaration of the kind. -/
def DeclarationKind.keyword : DeclarationKind → String
  | .classType => "class"
  | .interfaceType => "interface"

inductive MemberKind where
  | field
  | property
  | method
  deriving DecidableEq, Repr

def MemberKind.keyword : MemberKind → String
  | .field => "field"
  | .property => "property"
  | .method => "method"

/-- A member of a class or interface.  `type` is the declared type of a field
    or property, and the return type of a method. -/
structure Member where
  kind : MemberKind
  name : String
  type : String
  isPublic : Bool := false
  deriving DecidableEq, Repr

/-- The mark of a member's visibility. -/
def Member.marker (m : Member) : String := if m.isPublic then "+" else "-"

inductive ScopeKind where
  | ofNamespace
  /-- An enclosing type, around a nested declaration. -/
  | ofType
  deriving DecidableEq, Repr

def ScopeKind.keyword : ScopeKind → String
  | .ofNamespace => "namespace"
  | .ofType => "type"

/-- A scope around a declaration. -/
structure Scope where
  kind : ScopeKind
  name : String
  deriving DecidableEq, Repr

/-! ## Declarations -/

/-- A class or interface.  `scopes` runs from the outermost in. -/
structure Declaration where
  kind : DeclarationKind
  name : String
  scopes : List Scope := []
  members : List Member := []
  bases : List String := []
  deriving DecidableEq, Repr

/-- The namespace of what no namespace encloses. -/
def globalNamespace : String := "Global"

namespace Declaration

def isClass (d : Declaration) : Bool := d.kind == .classType

def isInterface (d : Declaration) : Bool := d.kind == .interfaceType

/-- The innermost namespace around the declaration. -/
def namespaceName (d : Declaration) : String :=
  match d.scopes.reverse.find? (·.kind == .ofNamespace) with
  | some scope => scope.name
  | none => globalNamespace

end Declaration

/-- What a diagram shows: a declaration and the file that holds it. -/
structure Entity extends Declaration where
  source : Path
  deriving DecidableEq, Repr

/-- Whether two entities are the same declaration in the same file, whichever
    way the file's path is spelled. -/
def Entity.sameAs (e other : Entity) : Bool :=
  e.toDeclaration == other.toDeclaration && e.source.sameAs other.source

end ClassAtlas
