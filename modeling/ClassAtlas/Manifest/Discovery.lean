import ClassAtlas.Disk.Walk
import ClassAtlas.Manifest.Batch

/-! # Finding manifests

    The manifests of a source directory are the files below it whose names end
    in `.decl.json`.  Hidden entries and the directories that builds leave
    behind are passed over, links are not followed.  The order is that of the
    names along the way, byte by byte, whatever order the system lists them in.

    Every directory is listed and every manifest read by its full path, which
    the system refuses if it is too long.
-/

namespace ClassAtlas

namespace Manifest

/-- Directories that builds leave behind. -/
def buildDirectories : List String := ["bin", "obj", "target", "node_modules"]

/-- Whether a name is text and starts with a dot. -/
def isHiddenName (name : Name) : Bool :=
  (Utf8.decode? name).isSome && name.head? == some Path.dot

def isBuildName (name : Name) : Bool := (buildDirectories.map Utf8.encode).contains name

/-- Whether a name is text and ends like a manifest's. -/
def isManifestName (name : Name) : Bool :=
  (Utf8.decode? name).isSome && (Utf8.encode suffix).isSuffixOf name

end Manifest

open Manifest

/-- What a search comes upon. -/
inductive Discovery where
  | manifest
  /-- A directory that is searched too. -/
  | directory
  deriving DecidableEq, Repr

/-- What a search of a directory comes upon there and below, by the names that
    lead to it, in the order of the listing. -/
def Directory.discoveries : Directory → List (Place × Discovery)
  | .empty => []
  | .file name _ rest =>
    if isManifestName name && ! isHiddenName name then ([name], .manifest) :: rest.discoveries
    else rest.discoveries
  | .link _ _ rest => rest.discoveries
  | .directory name inside rest =>
    if isHiddenName name || isBuildName name then rest.discoveries
    else
      ([name], .directory) :: inside.discoveries.map (fun d => (name :: d.1, d.2))
        ++ rest.discoveries

/-- Discoveries in the order of their places: each directory stands before what
    is below it. -/
def sortByPlace (found : List (Place × Discovery)) : List (Place × Discovery) :=
  found.mergeSort fun a b => decide (a.1 ≤ b.1)

/-- How far a search came: the manifests on the way, and the directory that it
    could not list, if there was one. -/
structure Search where
  found : List Path
  failure? : Option (Path × SystemError) := none
  deriving DecidableEq, Repr

namespace Disk

/-- Goes through discoveries in order, up to a directory that cannot be listed. -/
def search (disk : Disk) : List (Path × Discovery) → Search
  | [] => { found := [] }
  | (path, .manifest) :: rest =>
    let later := disk.search rest
    { later with found := path :: later.found }
  | (path, .directory) :: rest =>
    match disk.list path with
    | .ok _ => disk.search rest
    | .error e => { found := [], failure? := some (path, e) }

/-- The search of a source directory. -/
def searchBelow (disk : Disk) (source : Path) (inside : Directory) : Search :=
  disk.search <| (sortByPlace inside.discoveries).map fun d => (d.1.foldl Path.child source, d.2)

/-- What is said of a directory that cannot be listed. -/
def unlistedMessage (path : Path) (e : SystemError) : String :=
  "IO error for operation on " ++ path.shown ++ ": " ++ e.message

/-- The paths of the manifests of a source directory. -/
def manifests (disk : Disk) (source : Path) : Except GenerationError (List Path) :=
  match disk.directory? source with
  | none => .error (.declarationSource source "source directory does not exist")
  | some inside =>
    let search := disk.searchBelow source inside
    match search.failure? with
    | none => .ok search.found
    | some (path, e) => .error (.declarationSource path (unlistedMessage path e))

/-- The entities of the manifest at a path. -/
def loadManifest (disk : Disk) (path : Path) : Except GenerationError (List Entity) :=
  match disk.read path with
  | .ok contents => loadFile path contents
  | .error e => .error (.declarationSource path e.message)

/-- The entities of all manifests of a source directory. -/
def load (disk : Disk) (source : Path) : Except GenerationError (List Entity) := do
  return (← (← disk.manifests source).mapM disk.loadManifest).flatten

end Disk

end ClassAtlas
