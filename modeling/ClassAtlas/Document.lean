import ClassAtlas.NamespaceIndex
import ClassAtlas.Path.Uri
import ClassAtlas.Relationship

/-! # The diagram document

    A document is a list of lines: a fixed opening with the styles, one block
    for every package, and the relationships.  Every entity carries a link
    to its source file, which is why the current directory is needed.
-/

namespace ClassAtlas.Document

/-- The name of the notation. -/
def notationName : String := "plantuml"

/-- The extension of files in the notation. -/
def fileExtension : String := "puml"

/-! ## Fixed lines -/

def opening : String := "@startuml"

def closing : String := "@enduml"

def relationshipsHeading : String := "' Relationships"

def configuration : List String :=
  ["' Configuration",
   "hide empty members",
   "skinparam shadowing false",
   "skinparam handwritten false",
   "skinparam monochrome false",
   "skinparam linetype ortho"]

/-- A block of lines in braces. -/
def braced (head : String) (inner : List String) : List String :=
  (head ++ " \x7b") :: inner ++ ["\x7d"]

/-- The line at a depth of one. -/
def indented (line : String) : String := "    " ++ line

/-- The style of classes or interfaces, in three colours. -/
def entityStyle (head background border header : String) : List String :=
  braced head <|
    ["BackgroundColor<<Clickable>> " ++ background,
     "BorderColor<<Clickable>> " ++ border,
     "HeaderBackgroundColor<<Clickable>> " ++ header,
     "FontSize 12",
     "AttributeFontSize 11",
     "AttributeFontColor #333333",
     "BorderThickness 1"].map indented

def classStyle : List String := entityStyle "skinparam class" "#E3F2FD" "#1976D2" "#BBDEFB"

def interfaceStyle : List String := entityStyle "skinparam interface" "#F1F8E9" "#689F38" "#DCEDC8"

def arrowStyle : List String :=
  braced "skinparam arrow" (["Color #666666", "FontSize 11", "Thickness 1"].map indented)

/-- The lines before the first package. -/
def preamble : List String :=
  opening :: configuration ++ classStyle ++ interfaceStyle ++ arrowStyle

/-! ## Packages -/

/-- A class member: its visibility, name and type. -/
def classMember (m : Member) : String :=
  match m.kind with
  | .field | .property => m.marker ++ " " ++ m.name ++ " : " ++ m.type
  | .method => m.marker ++ " " ++ m.name ++ "() : " ++ m.type

/-- An interface member, always public: a method shows no type, a field is not
    shown. -/
def interfaceMember? (m : Member) : Option String :=
  match m.kind with
  | .method => some ("+ " ++ m.name ++ "()")
  | .property => some ("+ " ++ m.name ++ " : " ++ m.type)
  | .field => none

/-- The member lines of an entity. -/
def memberLines (e : Entity) : List String :=
  match e.kind with
  | .classType => e.members.map (indented <| classMember ·)
  | .interfaceType => (e.members.filterMap interfaceMember?).map indented

/-- The first line of an entity, up to its brace. -/
def entityHead (cwd : Path) (e : Entity) : String :=
  e.kind.keyword ++ " " ++ e.name ++ " <<Clickable>> [[" ++ Uri.ofPath cwd e.source ++ "]]"

/-- An entity and the blank line after it. -/
def entityLines (cwd : Path) (e : Entity) : List String :=
  braced (entityHead cwd e) (memberLines e) ++ [""]

/-- A package: its interfaces, then its classes. -/
def packageLines (cwd : Path) (p : Package) : List String :=
  braced ("package " ++ p.name) ((p.interfaces ++ p.classes).flatMap (entityLines cwd))

/-! ## The whole -/

/-- The lines after the last package. -/
def relationshipLines (set : RelationshipSet) : List String :=
  "" :: relationshipsHeading :: set.lines ++ [closing]

/-- The lines of a document. -/
def lines (cwd : Path) (index : NamespaceIndex) (set : RelationshipSet) : List String :=
  preamble ++ index.packages.flatMap (packageLines cwd) ++ relationshipLines set

/-- The text of lines, each with a line feed at its end. -/
def ofLines (ls : List String) : String := String.join (ls.map (· ++ "\n"))

/-- The text of a document. -/
def render (cwd : Path) (index : NamespaceIndex) (set : RelationshipSet) : String :=
  ofLines (lines cwd index set)

end ClassAtlas.Document
