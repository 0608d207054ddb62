/-! # Relationships

    An arrow of the diagram and the set of a diagram's arrows.  Arrows are told
    apart by their text: of several that read the same the set keeps the first,
    in the order in which they came.
-/

namespace ClassAtlas

inductive RelationshipKind where
  | inheritance
  | association
  deriving DecidableEq, Repr

/-- An arrow from a class to a base type, or to the type of a member. -/
structure Relationship where
  kind : RelationshipKind
  source : String
  target : String
  deriving DecidableEq, Repr

/-- The arrow's line in the diagram. -/
def Relationship.text (r : Relationship) : String :=
  match r.kind with
  | .inheritance => r.source ++ " --|> " ++ r.target
  | .association => r.source ++ " --> " ++ r.target ++ " : has"

/-- The arrows of a diagram, no two of one text. -/
structure RelationshipSet where
  edges : List Relationship := []
  deriving DecidableEq, Repr

namespace RelationshipSet

def empty : RelationshipSet := {}

/-- The lines of the arrows, in order. -/
def lines (set : RelationshipSet) : List String := set.edges.map (·.text)

/-- Whether an arrow of the set has that text. -/
def contains (set : RelationshipSet) (text : String) : Bool := set.lines.contains text

/-- Whether an insertion adds the arrow, which is what it answers. -/
def admits (set : RelationshipSet) (r : Relationship) : Bool := ! set.contains r.text

/-- The set with an arrow at its end, unless one reads the same already. -/
def insert (set : RelationshipSet) (r : Relationship) : RelationshipSet :=
  if set.contains r.text then set else ⟨set.edges ++ [r]⟩

/-- The set with several more arrows. -/
def insertAll (set : RelationshipSet) (rs : List Relationship) : RelationshipSet :=
  rs.foldl insert set

def size (set : RelationshipSet) : Nat := set.edges.length

def isEmpty (set : RelationshipSet) : Bool := set.edges.isEmpty

end RelationshipSet

end ClassAtlas
