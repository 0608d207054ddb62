import ClassAtlas.Disk.Change
import ClassAtlas.Manifest.Discovery
import ClassAtlas.ProjectRoot
import ClassAtlas.Report
import ClassAtlas.Settings

/-! # Generation

    A run loads the manifests of a source directory, makes the report and
    writes its document into an output directory.  Both directories default to
    places at the project root.  Nothing is written unless everything loads.
-/

namespace ClassAtlas

/-- Where a run puts its document. -/
inductive Sink where
  /-- Into a file on the disk. -/
  | disk
  /-- Nowhere: the path and the document are only reported. -/
  | memory
  deriving DecidableEq, Repr

/-- The document of a run and the path of its file. -/
structure Artifact where
  path : Path
  document : String
  deriving DecidableEq, Repr

namespace Disk

/-- Writes a document into a file of a directory, which is made where it is
    missing. -/
def writeDocument (disk : Disk) (directory : Path) (file : String) (document : String) :
    Disk × Except GenerationError Artifact :=
  match disk.makeDirectories directory with
  | (disk, .error e) => (disk, .error (.outputWrite directory e))
  | (disk, .ok ()) =>
    let path := directory.join (.ofString file)
    match disk.writeFile path (Utf8.encode document) with
    | .error e => (disk, .error (.outputWrite path e))
    | .ok disk => (disk, .ok { path, document })

end Disk

/-- How runs go: with which settings, from which root, into which sink. -/
structure Generator where
  settings : Settings := {}
  rootRule : RootRule := .markers RootRule.projectExtensions
  sink : Sink := .disk
  deriving DecidableEq, Repr

/-- The directories of a run. -/
structure Locations where
  source : Path
  output : Path
  deriving DecidableEq, Repr

namespace Generator

/-- The directories of a run that starts at `start`: the project root is looked
    for only if one of them is not given. -/
def locations (g : Generator) (disk : Disk) (start : Path) (source? output? : Option Path) :
    Except GenerationError Locations :=
  match source?, output? with
  | some source, some output => .ok { source, output }
  | _, _ => do
    let root ← disk.resolveRoot g.rootRule start
    return {
      source := source?.getD root
      output := output?.getD (root.join (.ofString g.settings.outputDirectory)) }

/-- The report on a source directory. -/
def inspect (g : Generator) (disk : Disk) (source : Path) : Except GenerationError Report := do
  let es ← disk.load source
  return Report.ofEntities disk.cwdPath g.settings.types es

/-- Puts a document where the sink wants it. -/
def deliver (g : Generator) (disk : Disk) (output : Path) (document : String) :
    Disk × Except GenerationError Artifact :=
  match g.sink with
  | .disk => disk.writeDocument output g.settings.outputFile document
  | .memory =>
    (disk, .ok { path := output.join (.ofString g.settings.outputFile), document })

/-- Generates from a source directory into an output directory. -/
def generate (g : Generator) (disk : Disk) (source output : Path) :
    Disk × Except GenerationError Artifact :=
  match g.inspect disk source with
  | .error e => (disk, .error e)
  | .ok report => g.deliver disk output report.document

/-- Generates at the locations of a run, if they are found. -/
def generateAt (g : Generator) (disk : Disk) (found : Except GenerationError Locations) :
    Disk × Except GenerationError Artifact :=
  match found with
  | .error e => (disk, .error e)
  | .ok l => g.generate disk l.source l.output

/-- Generates into an output directory from the manifests of the project. -/
def generateInto (g : Generator) (disk : Disk) (start output : Path) :
    Disk × Except GenerationError Artifact :=
  g.generateAt disk (g.locations disk start none (some output))

/-- Generates from and into the project. -/
def generateDefault (g : Generator) (disk : Disk) (start : Path) :
    Disk × Except GenerationError Artifact :=
  g.generateAt disk (g.locations disk start none none)

end Generator

end ClassAtlas
