import ClassAtlas.Path.Basic

/-! # Directories

    The contents of a directory, with everything below it, in the order in
    which the system lists them.  An entry is a file, a symbolic link or a
    directory; a place in the tree is the list of names that lead to it from
    the top.
-/

namespace ClassAtlas

/-- The entries of a directory, one after the other. -/
inductive Directory where
  | empty
  | file (name : Name) (contents : Bytes) (rest : Directory)
  | link (name : Name) (target : Path) (rest : Directory)
  | directory (name : Name) (inside : Directory) (rest : Directory)
  deriving DecidableEq, Repr

/-- What a name stands for. -/
inductive Entry where
  | file (contents : Bytes)
  | link (target : Path)
  | directory (inside : Directory)
  deriving DecidableEq, Repr

/-- The names that lead to an entry from the top, outermost first. -/
abbrev Place : Type := List Name

namespace Directory

/-! ## One directory -/

/-- An entry in front of others. -/
def cons (name : Name) : Entry → Directory → Directory
  | .file contents, rest => .file name contents rest
  | .link target, rest => .link name target rest
  | .directory inside, rest => .directory name inside rest

/-- The entries in order. -/
def entries : Directory → List (Name × Entry)
  | .empty => []
  | .file name contents rest => (name, .file contents) :: rest.entries
  | .link name target rest => (name, .link target) :: rest.entries
  | .directory name inside rest => (name, .directory inside) :: rest.entries

/-- The directory of a list of entries. -/
def ofEntries : List (Name × Entry) → Directory
  | [] => .empty
  | (name, e) :: rest => cons name e (ofEntries rest)

/-- The entry of that name. -/
def find? (d : Directory) (name : Name) : Option Entry := d.entries.lookup name

/-- The entries with one put in the place of the first of its name, or at the
    end. -/
def putEntry (name : Name) (e : Entry) : List (Name × Entry) → List (Name × Entry)
  | [] => [(name, e)]
  | x :: xs => if x.1 = name then (name, e) :: xs else x :: putEntry name e xs

/-- The directory with an entry of that name. -/
def put (d : Directory) (name : Name) (e : Entry) : Directory :=
  ofEntries (putEntry name e d.entries)

/-- The directory without the entry of that name. -/
def erase (d : Directory) (name : Name) : Directory :=
  ofEntries (d.entries.filter (·.1 ≠ name))

/-! ## The tree below -/

/-- The entry at a place; the top is the directory itself. -/
def at? (d : Directory) : Place → Option Entry
  | [] => some (.directory d)
  | name :: names =>
    match d.find? name with
    | some (.directory inside) => inside.at? names
    | some e => if names.isEmpty then some e else none
    | none => none

/-- The tree with the entry at a place changed by `change`, which sees the
    directory that holds it; nothing changes where there is no such directory. -/
def alterAt (change : Directory → Name → Directory) (d : Directory) : Place → Directory
  | [] => d
  | [name] => change d name
  | name :: names =>
    match d.find? name with
    | some (.directory inside) => d.put name (.directory (inside.alterAt change names))
    | _ => d

/-- The tree with an entry put at a place. -/
def putAt (d : Directory) (place : Place) (e : Entry) : Directory :=
  d.alterAt (fun inside name => inside.put name e) place

/-- The tree without the entry at a place. -/
def eraseAt (d : Directory) (place : Place) : Directory :=
  d.alterAt (fun inside name => inside.erase name) place

/-- Every place below the top, with what is there. -/
def places : Directory → List (Place × Entry)
  | .empty => []
  | .file name contents rest => ([name], .file contents) :: rest.places
  | .link name target rest => ([name], .link target) :: rest.places
  | .directory name inside rest =>
    ([name], .directory inside) :: inside.places.map (fun p => (name :: p.1, p.2)) ++ rest.places

end Directory

end ClassAtlas
