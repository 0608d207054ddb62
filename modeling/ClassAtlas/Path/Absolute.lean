import ClassAtlas.Path.Basic

/-! # Absolute paths

    Makes a path absolute by its text alone: the current directory goes in
    front of a relative path, idle names and repeated slashes go away, and `..`
    stays.  Exactly two slashes in front are kept, three or more count as one.
    A slash at the end is kept.
-/

namespace ClassAtlas.Path

/-- Whether the path opens with exactly two slashes. -/
def opensDouble (p : Path) : Bool :=
  [slash, slash].isPrefixOf p.bytes && ! [slash, slash, slash].isPrefixOf p.bytes

/-- Where the steps of a path are counted from. -/
def origin (cwd p : Path) : Path :=
  if p.isAbsolute then (if p.opensDouble then ⟨[slash, slash]⟩ else top) else cwd

/-- The path made absolute, seen from the directory `cwd`; the empty path has
    no absolute form. -/
def absolute? (cwd p : Path) : Option Path :=
  if p = empty then none
  else
    let stepped := p.steps.foldl child (origin cwd p)
    some (if p.endsInSlash then stepped.child [] else stepped)

/-- The path made absolute, or the empty path as it is. -/
def absolute (cwd p : Path) : Path := (absolute? cwd p).getD p

end ClassAtlas.Path
