/-! # Built-in types

    Decides by name alone which member types are no association: the scalars,
    the common containers with any arguments, and the names that a run adds.
-/

namespace ClassAtlas

/-- The types that a run takes for built-in: the fixed ones and `extra`. -/
structure BuiltInTypes where
  extra : List String := []

namespace BuiltInTypes

/-- Scalars and their boxed forms. -/
def scalars : List String :=
  ["string", "int", "bool", "double", "float", "decimal", "char", "byte", "object",
   "String", "Int32", "Boolean", "Double", "Single", "Decimal", "Char", "Byte", "Object"]

/-- The openings of container types. -/
def containers : List String := ["List<", "IEnumerable<", "Dictionary<"]

/-- One more built-in name. -/
def insert (types : BuiltInTypes) (name : String) : BuiltInTypes :=
  { types with extra := name :: types.extra }

/-- Whether a type of that name is a container. -/
def isContainer (name : String) : Bool :=
  containers.any (·.toList.isPrefixOf name.toList)

/-- Whether a type of that name is built-in. -/
def contains (types : BuiltInTypes) (name : String) : Bool :=
  scalars.contains name || types.extra.contains name || isContainer name

end BuiltInTypes

end ClassAtlas
