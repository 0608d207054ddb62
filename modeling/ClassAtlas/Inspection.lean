import ClassAtlas.Json.Printer
import ClassAtlas.Report

/-! # Inspections

    What a run on a source directory would contain, in numbers: the types of
    every namespace and the relationships.  An inspection is shown to people as
    a table and to programs as JSON.
-/

namespace ClassAtlas

/-- How many types of each kind a namespace has. -/
structure NamespaceCount where
  name : String
  interfaces : Nat
  classes : Nat
  deriving DecidableEq, Repr

structure Inspection where
  source : Path
  namespaces : List NamespaceCount
  /-- The lines of the relationships. -/
  relationships : List String
  deriving DecidableEq, Repr

namespace Inspection

/-- The inspection that a report on a source directory gives. -/
def ofReport (source : Path) (report : Report) : Inspection where
  source
  namespaces := report.index.packages.map fun p =>
    { name := p.name, interfaces := p.interfaces.length, classes := p.classes.length }
  relationships := report.relationships.lines

def interfaces (i : Inspection) : Nat := i.namespaces.foldr (·.interfaces + ·) 0

def classes (i : Inspection) : Nat := i.namespaces.foldr (·.classes + ·) 0

/-! ## The table -/

/-- The width of the column of names. -/
def nameWidth : Nat := 24

/-- A name with blanks up to the width of its column. -/
def padded (name : String) : String :=
  name ++ String.ofList (List.replicate (nameWidth - name.toList.length) ' ')

/-- The row of a namespace. -/
def row (n : NamespaceCount) : String :=
  "  " ++ padded n.name ++ " " ++ toString n.interfaces ++ " interfaces, "
    ++ toString n.classes ++ " classes\n"

/-- The inspection as a table. -/
def table (i : Inspection) : String :=
  "Source: " ++ i.source.shown ++ "\nNamespaces:\n" ++ String.join (i.namespaces.map row)
    ++ "\nTotal: " ++ toString i.classes ++ " classes, " ++ toString i.interfaces
    ++ " interfaces, " ++ toString i.relationships.length ++ " relationships\n"

/-! ## JSON -/

/-- A namespace as a JSON object. -/
def namespaceJson (n : NamespaceCount) : Json :=
  .object [("classes", .number n.classes), ("interfaces", .number n.interfaces),
    ("name", .string n.name)]

/-- The inspection as a JSON object. -/
def json (i : Inspection) : Json :=
  .object [("classes", .number i.classes), ("interfaces", .number i.interfaces),
    ("namespaces", .array (i.namespaces.map namespaceJson)),
    ("relationships", .array (i.relationships.map .string)),
    ("source", .string i.source.shown)]

end Inspection

end ClassAtlas
