import ClassAtlas.BuiltInTypes

/-! # Settings

    What a run can be told beforehand: the name of the diagram file, the
    directory for it below the project root, and further built-in types.
-/

namespace ClassAtlas

structure Settings where
  outputFile : String := "ClassDiagrams.puml"
  outputDirectory : String := "diagrams"
  builtIns : List String := []
  deriving DecidableEq, Repr

/-- The types that the settings make built-in. -/
def Settings.types (settings : Settings) : BuiltInTypes := { extra := settings.builtIns }

end ClassAtlas
