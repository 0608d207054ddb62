import ClassAtlas.Disk.Walk

/-! # Changing a disk

    Directories are made and files written where paths lead.  What a change
    does not reach stays as it is.
-/

namespace ClassAtlas.Disk

/-- The disk with an entry put at a place. -/
def put (disk : Disk) (place : Place) (e : Entry) : Disk :=
  { disk with top := disk.top.putAt place e }

/-- Makes one directory. -/
def makeDirectory (disk : Disk) (p : Path) : Except SystemError Disk :=
  match disk.reach .make p with
  | .ok (.free parent name) => .ok (disk.put (parent ++ [name]) (.directory .empty))
  | .ok (.entry ..) => .error .alreadyExists
  | .error e => .error e

/-- Makes the first directory of a list, and before it those of the others that
    are missing; the list holds a path and those above it, innermost first. -/
def makeAll (disk : Disk) : List Path → Disk × Except SystemError Unit
  | [] => (disk, .ok ())
  | p :: above =>
    if p.parent?.isNone then (disk, .ok ())
    else
      match disk.makeDirectory p with
      | .ok made => (made, .ok ())
      | .error e =>
        if e = .noEntry then
          match disk.makeAll above with
          | (disk, .ok ()) =>
            match disk.makeDirectory p with
            | .ok made => (made, .ok ())
            | .error e => if disk.isDirectory p then (disk, .ok ()) else (disk, .error e)
          | failed => failed
        else if e = .alreadyExists ∧ disk.isDirectory p then (disk, .ok ())
        else (disk, .error e)

/-- Makes a directory and those missing above it.  Some may have been made
    when the last of them cannot. -/
def makeDirectories (disk : Disk) (p : Path) : Disk × Except SystemError Unit :=
  disk.makeAll p.ancestors

/-- Writes a file, in place of what it held before. -/
def writeFile (disk : Disk) (p : Path) (contents : Bytes) : Except SystemError Disk :=
  match disk.reach .write p with
  | .ok (.free parent name) => .ok (disk.put (parent ++ [name]) (.file contents))
  | .ok (.entry place (.file _)) => .ok (disk.put place (.file contents))
  | .ok (.entry ..) => .error .isDirectory
  | .error e => .error e

end ClassAtlas.Disk
