import ClassAtlas.Document
import ClassAtlas.Relationship.Inference

/-! # Reports

    What a run makes of its entities: the index, the relationships and the
    document that shows both.
-/

namespace ClassAtlas

structure Report where
  index : NamespaceIndex
  relationships : RelationshipSet
  document : String

namespace Report

/-- The report on entities, with links seen from the directory `cwd`. -/
def ofEntities (cwd : Path) (types : BuiltInTypes) (es : List Entity) : Report :=
  let index := NamespaceIndex.ofList es
  let relationships := RelationshipSet.infer types es index
  { index, relationships, document := Document.render cwd index relationships }

end Report

/-- The document of entities, with no built-in types but the fixed ones. -/
def generate (cwd : Path) (es : List Entity) : String :=
  (Report.ofEntities cwd {} es).document

end ClassAtlas
