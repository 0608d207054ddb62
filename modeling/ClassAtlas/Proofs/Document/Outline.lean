import ClassAtlas.Proofs.Text.Lines

/-! # Outlines

    What a document shows, apart from its layout: the packages in order, in
    each the interfaces and the classes with their links and member lines, and
    the lines of the arrows.

    `Outline.read?` finds the outline in the lines of a document.  It goes from
    line to line and knows what may stand there: a package or the blank line
    that ends them, an entity or the brace that closes its package, a member or
    the brace that closes its entity.
-/

namespace ClassAtlas

/-- An entity as a document shows it. -/
structure EntityOutline where
  name : String
  link : String
  /-- The lines between its braces. -/
  members : List String
  deriving DecidableEq, Repr

structure PackageOutline where
  name : String
  interfaces : List EntityOutline
  classes : List EntityOutline
  deriving DecidableEq, Repr

structure Outline where
  packages : List PackageOutline
  /-- The lines of the arrows. -/
  arrows : List String
  deriving DecidableEq, Repr

/-! ## Outlines of what is rendered -/

def Entity.outline (cwd : Path) (e : Entity) : EntityOutline where
  name := e.name
  link := Uri.ofPath cwd e.source
  members := Document.memberLines e

def Package.outline (cwd : Path) (p : Package) : PackageOutline where
  name := p.name
  interfaces := p.interfaces.map (·.outline cwd)
  classes := p.classes.map (·.outline cwd)

namespace Outline

def ofDocument (cwd : Path) (index : NamespaceIndex) (set : RelationshipSet) : Outline where
  packages := index.packages.map (·.outline cwd)
  arrows := set.lines

/-! ## Reading a line -/

/-- The name in the first line of a package. -/
def packageName? (line : String) : Option String := do
  let rest ← "package ".toList.isPrefixOf? line.toList
  let name ← " \x7b".toList.isSuffixOf? rest
  return String.ofList name

/-- The kind that the first word of a line tells, and what follows the word. -/
def dropKeyword? (line : List Char) : Option (DeclarationKind × List Char) :=
  [DeclarationKind.classType, .interfaceType].findSome? fun kind =>
    ((kind.keyword ++ " ").toList.isPrefixOf? line).map (kind, ·)

/-- The kind, the name and the link in the first line of an entity.  A link has
    no bracket, so it starts after the last one that opens. -/
def entityHead? (line : String) : Option (DeclarationKind × String × String) := do
  let (kind, rest) ← dropKeyword? line.toList
  let body ← "]] \x7b".toList.isSuffixOf? rest
  let link := (body.reverse.takeWhile (· != '[')).reverse
  let front := (body.reverse.dropWhile (· != '[')).reverse
  let name ← " <<Clickable>> [[".toList.isSuffixOf? front
  return (kind, String.ofList name, String.ofList link)

/-- Whether a line stands at a depth of one. -/
def isIndented (line : String) : Bool := "    ".toList.isPrefixOf line.toList

/-! ## Reading a document -/

/-- The lines of the arrows, up to the closing line, which is the last. -/
def readArrows : List String → Option (List String)
  | [] => none
  | [line] => if line = Document.closing then some [] else none
  | line :: rest => (readArrows rest).map (line :: ·)

/-- The arrows after the blank line that ends the packages. -/
def readRelationships : List String → Option (List String)
  | [] => none
  | line :: rest => if line = Document.relationshipsHeading then readArrows rest else none

/-- The outlines of one kind among entities. -/
def ofKind (kind : DeclarationKind) (es : List (DeclarationKind × EntityOutline)) :
    List EntityOutline :=
  es.filterMap fun (k, o) => if k = kind then some o else none

mutual

/-- The outline from a line where a package may start. -/
def readPackages : List String → Option Outline
  | [] => none
  | line :: rest =>
    if line = "" then (readRelationships rest).map ({ packages := [], arrows := · })
    else do
      let name ← packageName? line
      let (es, after) ← readEntities rest
      let package : PackageOutline :=
        { name, interfaces := ofKind .interfaceType es, classes := ofKind .classType es }
      return { after with packages := package :: after.packages }

/-- The entities up to the end of their package, and the outline after it. -/
def readEntities : List String → Option (List (DeclarationKind × EntityOutline) × Outline)
  | [] => none
  | line :: rest =>
    if line = "\x7d" then (readPackages rest).map ([], ·)
    else do
      let (kind, name, link) ← entityHead? line
      let (members, es, after) ← readMembers rest
      return ((kind, { name, link, members }) :: es, after)

/-- The members up to the end of their entity, the entities after it and the
    outline after those. -/
def readMembers :
    List String → Option (List String × List (DeclarationKind × EntityOutline) × Outline)
  | [] => none
  | [_] => none
  | line :: next :: rest =>
    if line = "\x7d" then
      if next = "" then (readEntities rest).map ([], ·) else none
    else if isIndented line then
      (readMembers (next :: rest)).map fun (members, after) => (line :: members, after)
    else none

end

/-- The outline in the lines of a document. -/
def readLines? (lines : List String) : Option Outline := do
  readPackages (← Document.preamble.isPrefixOf? lines)

/-- The outline in a document. -/
def read? (document : String) : Option Outline := readLines? (Lines.ofText document)

end Outline

end ClassAtlas
