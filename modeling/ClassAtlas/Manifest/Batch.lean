import ClassAtlas.GenerationError
import ClassAtlas.Manifest.Format

/-! # Batches of manifests

    Reads manifests one after the other.  The first that is at fault stops the
    batch, and its path stands in the error.
-/

namespace ClassAtlas.Manifest

/-- The end of every manifest's file name. -/
def suffix : String := ".decl.json"

/-- The entities of a manifest, or the error that names it. -/
def load (path : Path) (contents : String) : Except GenerationError (List Entity) :=
  match parse path contents with
  | .ok es => .ok es
  | .error fault => .error (.declarationSource path (fault.message contents))

/-- The entities of a manifest's file. -/
def loadFile (path : Path) (contents : Bytes) : Except GenerationError (List Entity) :=
  match Utf8.decode? contents with
  | some text => load path text
  | none => .error (.declarationSource path "stream did not contain valid UTF-8")

/-- The entities of several manifests, in order. -/
def loadAll (manifests : List (Path × String)) : Except GenerationError (List Entity) := do
  return (← manifests.mapM fun m => load m.1 m.2).flatten

end ClassAtlas.Manifest
