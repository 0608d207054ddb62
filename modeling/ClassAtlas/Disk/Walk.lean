import ClassAtlas.Disk.Directory
import ClassAtlas.GenerationError

/-! # Walking along paths

    A disk is a tree with a current directory.  A path is walked name by name:
    every name but the last must lead to a directory, `..` leads to the
    directory above, and a symbolic link is replaced by its target, forty times
    at most.  A slash at the end of a path demands a directory.
-/

namespace ClassAtlas

/-- A tree and the place of the current directory. -/
structure Disk where
  top : Directory
  cwd : Place := []
  deriving DecidableEq, Repr

/-- What a path is walked for, which decides what its last name may be. -/
inductive Purpose where
  /-- To look at what is there: a link is followed. -/
  | visit
  /-- To make a directory: a link is in the way like any entry. -/
  | make
  /-- To write a file: a link is followed, a slash at the end is refused. -/
  | write
  deriving DecidableEq, Repr

/-- Where a path leads. -/
inductive Reached where
  | entry (place : Place) (e : Entry)
  /-- No entry has the last name, but the directory for it is there. -/
  | free (parent : Place) (name : Name)
  deriving DecidableEq, Repr

/-- The names that a walk goes through, `.` and `..` among them. -/
def Path.names (p : Path) : List Name :=
  ((Path.cut p.bytes).1 :: (Path.cut p.bytes).2).filter (! ·.isEmpty)

namespace Disk

/-- The longest name. -/
def nameLimit : Nat := 255

/-- The shortest path that is too long. -/
def pathLimit : Nat := 4096

/-- How many links a walk may follow. -/
def linkLimit : Nat := 40

/-- Where a path starts. -/
def origin (here : Place) (p : Path) : Place := if p.isAbsolute then [] else here

/-- The end of a walk. -/
def arrive (top : Directory) (purpose : Purpose) (place : Place) (slash : Bool) :
    Except SystemError Reached :=
  match top.at? place with
  | none => .error .noEntry
  | some (.directory inside) => .ok (.entry place (.directory inside))
  | some e =>
    if slash && purpose = .visit then .error .notDirectory else .ok (.entry place e)

/-- Walks along the names from a place.  `slash` says that the path ends in a
    slash, `links` how many more links may be followed. -/
def walk (top : Directory) (purpose : Purpose) (links : Nat) (place : Place)
    (names : List Name) (slash : Bool) : Except SystemError Reached :=
  match names with
  | [] => arrive top purpose place slash
  | name :: rest =>
    match top.at? place with
    | some (.directory inside) =>
      if name = Path.here then walk top purpose links place rest slash
      else if name = Path.up then walk top purpose links place.dropLast rest slash
      else if rest.isEmpty && slash && purpose = .write then .error .isDirectory
      else if nameLimit < name.length then .error .nameTooLong
      else
        match inside.find? name with
        | none => if rest.isEmpty then .ok (.free place name) else .error .noEntry
        | some (.link target) =>
          if rest.isEmpty && purpose = .make then .ok (.entry (place ++ [name]) (.link target))
          else
            match links with
            | 0 => .error .linkLoop
            | links + 1 =>
              walk top purpose links (origin place target) (target.names ++ rest)
                (slash || (rest.isEmpty && target.endsInSlash))
        | some _ => walk top purpose links (place ++ [name]) rest slash
    | some _ => .error .notDirectory
    | none => .error .noEntry
  termination_by (links, names.length)

/-- Where a path leads. -/
def reach (disk : Disk) (purpose : Purpose) (p : Path) : Except SystemError Reached :=
  if p.bytes.contains 0 then .error .zeroByte
  else if p = .empty then .error .noEntry
  else if pathLimit ≤ p.bytes.length then .error .nameTooLong
  else walk disk.top purpose linkLimit (origin disk.cwd p) p.names p.endsInSlash

/-! ## Looking -/

/-- What a path leads to, links followed. -/
def entry (disk : Disk) (p : Path) : Except SystemError Entry :=
  match disk.reach .visit p with
  | .ok (.entry _ e) => .ok e
  | .ok (.free ..) => .error .noEntry
  | .error e => .error e

/-- Whether a path leads anywhere. -/
def exists? (disk : Disk) (p : Path) : Bool :=
  match disk.entry p with
  | .ok _ => true
  | .error _ => false

/-- The directory that a path leads to. -/
def directory? (disk : Disk) (p : Path) : Option Directory :=
  match disk.entry p with
  | .ok (.directory inside) => some inside
  | _ => none

def isDirectory (disk : Disk) (p : Path) : Bool := (disk.directory? p).isSome

/-- The contents of the file that a path leads to. -/
def contents? (disk : Disk) (p : Path) : Option Bytes :=
  match disk.entry p with
  | .ok (.file contents) => some contents
  | _ => none

def isFile (disk : Disk) (p : Path) : Bool := (disk.contents? p).isSome

/-- Reads the file that a path leads to. -/
def read (disk : Disk) (p : Path) : Except SystemError Bytes :=
  match disk.entry p with
  | .ok (.file contents) => .ok contents
  | .ok _ => .error .isDirectory
  | .error e => .error e

/-- Lists the directory that a path leads to. -/
def list (disk : Disk) (p : Path) : Except SystemError Directory :=
  match disk.entry p with
  | .ok (.directory inside) => .ok inside
  | .ok _ => .error .notDirectory
  | .error e => .error e

/-- The path of a place. -/
def pathOf (place : Place) : Path := place.foldl Path.child .top

/-- The path of the current directory. -/
def cwdPath (disk : Disk) : Path := pathOf disk.cwd

end Disk

end ClassAtlas
