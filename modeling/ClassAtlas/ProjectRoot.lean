import ClassAtlas.Disk.Walk
import ClassAtlas.Path.Absolute

/-! # The project root

    The root of a project is found by climbing from a start: the nearest
    directory with a version control marker, or if there is none all the way
    up, the nearest with a project file.  Climbing goes by the text of the path,
    made absolute.
-/

namespace ClassAtlas

/-- How a project root is found. -/
inductive RootRule where
  /-- By its markers; project files have one of the extensions. -/
  | markers (extensions : List String)
  /-- Always the same. -/
  | fixed (root : Path)
  deriving DecidableEq, Repr

namespace RootRule

/-- The name of the version control marker. -/
def versionControl : Path := .ofString ".git"

def projectExtensions : List String := ["sln", "csproj"]

def name : RootRule → String
  | .markers _ => "marker"
  | .fixed _ => "fixed"

end RootRule

namespace Disk

/-- Whether a directory has a version control marker. -/
def hasMarker (disk : Disk) (dir : Path) : Bool := disk.exists? (dir.join RootRule.versionControl)

/-- Whether a name has one of the extensions. -/
def hasExtension (extensions : List String) (name : Name) : Bool :=
  match name.extension? with
  | some ext => (extensions.map Utf8.encode).contains ext
  | none => false

/-- Whether a directory can be listed and has a project file. -/
def hasProjectFile (disk : Disk) (extensions : List String) (dir : Path) : Bool :=
  match disk.directory? dir with
  | some inside =>
    inside.entries.any fun e => hasExtension extensions e.1 && disk.isFile (dir.child e.1)
  | none => false

/-- The nearest directory with a version control marker. -/
def findMarked (disk : Disk) (start : Path) : Option Path :=
  start.ancestors.find? disk.hasMarker

/-- The nearest directory with a project file. -/
def findProject (disk : Disk) (extensions : List String) (start : Path) : Option Path :=
  start.ancestors.find? (disk.hasProjectFile extensions)

/-- The root of the project that holds `start`. -/
def resolveRoot (disk : Disk) (rule : RootRule) (start : Path) : Except GenerationError Path :=
  match rule with
  | .fixed root => .ok root
  | .markers extensions =>
    match Path.absolute? disk.cwdPath start with
    | none => .error (.io .emptyPath)
    | some start =>
      match disk.findMarked start with
      | some root => .ok root
      | none =>
        match disk.findProject extensions start with
        | some root => .ok root
        | none => .error (.unresolvableRoot start)

end Disk

end ClassAtlas
