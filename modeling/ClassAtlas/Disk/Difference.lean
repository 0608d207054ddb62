import ClassAtlas.Disk.Directory

/-! # Differences between trees

    The steps that lead from one tree to another in which directories were made
    and files written, outer directories first.
-/

namespace ClassAtlas

/-- One step of a change. -/
inductive TreeStep where
  | makeDirectory (place : Place)
  | writeFile (place : Place) (contents : Bytes)
  deriving DecidableEq, Repr

namespace Directory

/-- The step that brings an entry about, unless it is there. -/
def stepTo? (d : Directory) (place : Place) : Entry → Option TreeStep
  | .directory _ =>
    match d.at? place with
    | some (.directory _) => none
    | _ => some (.makeDirectory place)
  | .file contents =>
    if d.at? place = some (.file contents) then none else some (.writeFile place contents)
  | .link _ => none

/-- The steps from one tree to another. -/
def stepsTo (d later : Directory) : List TreeStep :=
  later.places.filterMap fun p => d.stepTo? p.1 p.2

end Directory

end ClassAtlas
