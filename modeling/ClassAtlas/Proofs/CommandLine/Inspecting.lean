import ClassAtlas.Proofs.CommandLine.Verbosity
import ClassAtlas.Proofs.Document.Frame
import ClassAtlas.Proofs.Json.Spelling
import ClassAtlas.Proofs.Manifest.Unambiguous
import ClassAtlas.Proofs.NamespaceIndex.Editing

/-! # Inspections tell what is loaded

    What an inspection prints for programs is one JSON text, and whoever reads it
    gets back the source, the namespaces with their counts, the totals and the
    lines of the arrows (`inspect_json_faithful`), whatever characters stand in
    them.  The arrows are those of the document that is generated from the same
    source.

    That the text can be read is a matter of how values are printed
    (`Json.spelledAs_text`), that it can be read in one way only a matter of the
    grammar (`Manifest.Value.SpelledAs.unique`).  What remains is to say the
    counts of an index by the entities that went into it.
-/

namespace ClassAtlas

open Manifest (Value Numeral)

/-! ## What there is to read -/

namespace Inspection

/-- A namespace, with the counts of its entities. -/
def namespaceValue (es : List Entity) (n : String) : Value :=
  .object
    [("classes", .number (.ofNat (classesOf es n).length)),
     ("interfaces", .number (.ofNat (interfacesOf es n).length)),
     ("name", .text n)]

/-- How many interfaces there are in all namespaces. -/
def interfaceTotal (es : List Entity) : Nat :=
  ((namespacesOf es).map fun n => (interfacesOf es n).length).sum

/-- How many classes there are in all namespaces. -/
def classTotal (es : List Entity) : Nat :=
  ((namespacesOf es).map fun n => (classesOf es n).length).sum

/-- The entities of a source and the arrows between them, counted and listed. -/
def summary (source : Path) (es : List Entity) (set : RelationshipSet) : Value :=
  .object
    [("classes", .number (.ofNat (classTotal es))),
     ("interfaces", .number (.ofNat (interfaceTotal es))),
     ("namespaces", .list ((namespacesOf es).map (namespaceValue es))),
     ("relationships", .list (set.lines.map .text)),
     ("source", .text (Utf8.lossy source.bytes))]

/-! ## Counts -/

theorem packages_ofList (es : List Entity) :
    (NamespaceIndex.ofList es).packages = (namespacesOf es).map (Package.ofNamespace es) := by
  have hgroups := NamespaceIndex.groups_ofList es
  rw [hgroups.packages_eq, hgroups.namespaces_eq]

/-- What is summed over packages is summed over namespaces. -/
theorem foldr_packages_ofList (es : List Entity) (count : Package → Nat) :
    (NamespaceIndex.ofList es).packages.foldr (count · + ·) 0
      = ((namespacesOf es).map fun n => count (Package.ofNamespace es n)).sum := by
  rw [packages_ofList, List.foldr_map, List.sum_eq_foldr, List.foldr_map]

theorem interfaceCount_ofList (es : List Entity) :
    (NamespaceIndex.ofList es).interfaceCount = interfaceTotal es :=
  foldr_packages_ofList es (·.interfaces.length)

theorem classCount_ofList (es : List Entity) :
    (NamespaceIndex.ofList es).classCount = classTotal es :=
  foldr_packages_ofList es (·.classes.length)

/-- Every entity is counted once. -/
theorem interfaceTotal_add_classTotal (es : List Entity) :
    interfaceTotal es + classTotal es = es.length := by
  rw [← interfaceCount_ofList, ← classCount_ofList]
  exact (NamespaceIndex.mirrors_ofList es).count

section

variable (source cwd : Path) (types : BuiltInTypes) (es : List Entity)

/-- The counts of an index, namespace by namespace. -/
theorem namespaces_ofReport :
    (ofReport source (.ofEntities cwd types es)).namespaces
      = (namespacesOf es).map fun n =>
          ⟨n, (interfacesOf es n).length, (classesOf es n).length⟩ := by
  have hnamespaces : (ofReport source (.ofEntities cwd types es)).namespaces
      = (NamespaceIndex.ofList es).packages.map fun p =>
          ⟨p.name, p.interfaces.length, p.classes.length⟩ := rfl
  rw [hnamespaces, packages_ofList, List.map_map]
  rfl

theorem interfaces_ofReport :
    (ofReport source (.ofEntities cwd types es)).interfaces = interfaceTotal es := by
  rw [← interfaceCount_ofList]
  exact List.foldr_map

theorem classes_ofReport :
    (ofReport source (.ofEntities cwd types es)).classes = classTotal es := by
  rw [← classCount_ofList]
  exact List.foldr_map

/-! ## What is printed -/

/-- The value that is printed is the summary. -/
theorem value_json :
    (ofReport source (.ofEntities cwd types es)).json.value
      = summary source es (RelationshipSet.infer types es (.ofList es)) := by
  have hnamespace : ∀ n ∈ namespacesOf es, (namespaceJson
      ⟨n, (interfacesOf es n).length, (classesOf es n).length⟩).value = namespaceValue es n := by
    intro n _
    simp only [namespaceJson, namespaceValue, Json.value, Json.fieldValues]
  have hrelationships : (ofReport source (.ofEntities cwd types es)).relationships
      = (RelationshipSet.infer types es (.ofList es)).lines := rfl
  have hsource : (ofReport source (.ofEntities cwd types es)).source.shown
      = Utf8.lossy source.bytes := rfl
  rw [json, interfaces_ofReport, classes_ofReport, namespaces_ofReport, hrelationships, hsource]
  simp only [summary, Json.value, Json.fieldValues, Json.itemValues_eq_map, List.map_map,
    ← List.map_congr_left hnamespace]
  rfl

end

end Inspection

/-! ## Inspecting -/

namespace CommandLine

open Command (sourceOr reportOn)

/-- An invocation that prints an inspection for programs. -/
def Invocation.toInspection (invocation : Invocation) (source? : Option Path) : Invocation :=
  { invocation with command := .inspect source? true }

section

variable {disk : Disk} {source? : Option Path} {source : Path} {es : List Entity}

/-- Once the source is loaded, nothing keeps the inspection from being printed. -/
theorem perform_inspect (hsource : sourceOr {} disk source? = .ok source)
    (hload : disk.load source = .ok es) :
    (Command.inspect source? true).perform disk
      = (disk, .ok
          ((Inspection.ofReport source (.ofEntities disk.cwdPath {} es)).json.text ++ "\n")) := by
  have hinspect : ({} : Generator).inspect disk source = .ok (.ofEntities disk.cwdPath {} es) :=
    Generator.inspect_eq_ok_iff.2 ⟨es, hload, rfl⟩
  have hreport : reportOn {} disk source? = .ok (source, .ofEntities disk.cwdPath {} es) :=
    reportOn_eq_ok_iff.2 ⟨hsource, hinspect⟩
  have hperform : (Command.inspect source? true).perform disk
      = (disk, (reportOn {} disk source?).map
          fun r => Command.printed true (.ofReport r.1 r.2)) := rfl
  rw [hperform, hreport]
  rfl

/-- Of a source that loads, an inspection prints one JSON text, and the one value
    that can be read from it tells the source, the namespaces in ascending order
    with their counts, the totals, and the arrows of the document that is generated
    from the same source.  A run that logs as it is told ends well with that output
    and leaves the disk alone. -/
theorem inspect_json_faithful (hsource : sourceOr {} disk source? = .ok source)
    (hload : disk.load source = .ok es) :
    let set := RelationshipSet.infer {} es (.ofList es)
    ∃ stdout,
      (Command.inspect source? true).perform disk = (disk, .ok stdout)
      ∧ (∀ v : Value, v.SpelledAs stdout ↔ v = Inspection.summary source es set)
      ∧ Ascending (namespacesOf es)
      ∧ (∀ n, n ∈ namespacesOf es ↔ ∃ e ∈ es, e.namespaceName = n)
      ∧ Inspection.interfaceTotal es + Inspection.classTotal es = es.length
      ∧ (Command.generate source? none [] true).perform disk
        = (disk, .ok (Document.render disk.cwdPath (.ofList es) set))
      ∧ ∀ (env : Environment) (invocation : Invocation),
          Logger.ofInvocation env invocation ≠ .unreadableFilter →
          ((invocation.toInspection source?).run env disk).exitCode = 0
            ∧ ((invocation.toInspection source?).run env disk).stdout = stdout
            ∧ ((invocation.toInspection source?).run env disk).disk = disk := by
  intro set
  have hperform := perform_inspect hsource hload
  have hspelled := (Inspection.ofReport source (.ofEntities disk.cwdPath {} es)).json.spelledAs_text
  rw [Inspection.value_json] at hspelled
  refine ⟨_, hperform, ?_, ascending_namespacesOf es, ?_,
    Inspection.interfaceTotal_add_classTotal es, ?_, ?_⟩
  · intro v
    constructor
    · exact fun hv => hv.unique hspelled
    · intro hv
      rw [hv]
      exact hspelled
  · intro n
    rw [mem_namespacesOf, List.mem_map]
  · -- the document shows the report that is counted here
    have hdocument : (Report.ofEntities disk.cwdPath { extra := [] } es).document
        = Document.render disk.cwdPath (.ofList es) set := by
      simp only [Report.ofEntities]
      rfl
    exact perform_toStdout_eq_ok_iff.2 ⟨rfl, source, es, hsource, hload, hdocument⟩
  · intro env invocation hstart
    have hstart' : Logger.ofInvocation env (invocation.toInspection source?) ≠ .unreadableFilter :=
      hstart
    exact Invocation.run_of_ok hstart' hperform

end

/-- The path of a directory whose name is no text. -/
def quotedSource : Path := ⟨[0x2F, 0x22, 0xFF]⟩

def quotedDirectory (manifest : Bytes) : Directory :=
  .file (Utf8.encode "a.decl.json") manifest .empty

def quotedDisk (manifest : Bytes) : Disk where
  top := .directory [0x22, 0xFF] (quotedDirectory manifest) .empty

/-- A class whose names must be escaped, one of them by a number. -/
def quotedManifest : String :=
  Manifest.Style.compact.print (Report.manifestOfNamed "A\"\n" "N\\\x01" "I\t")

def quotedClass : Entity :=
  Report.classNamed (quotedSource.below [Utf8.encode "a.decl.json"]) "A\"\n" "N\\\x01" "I\t"

/-- What is in the manifest does not matter for where it is. -/
theorem discovers_quotedDirectory (manifest : Bytes) :
    (quotedDirectory manifest).Discovers [[Utf8.encode "a.decl.json"]] := by
  have htree : (quotedDirectory manifest).IsTree := ⟨by decide, by decide, trivial⟩
  have hdiscoveries : (quotedDirectory manifest).discoveries
      = [([Utf8.encode "a.decl.json"], .manifest)] := by
    cbv
  refine htree.discovers_of_perm (by decide) ?_
  rw [hdiscoveries]
  decide

theorem load_quotedDisk :
    (quotedDisk (Utf8.encode quotedManifest)).load quotedSource = .ok [quotedClass] := by
  generalize hmanifest : Utf8.encode quotedManifest = manifest
  have htree : (quotedDisk manifest).top.IsTree :=
    ⟨by decide, by decide, ⟨by decide, by decide, trivial⟩, trivial⟩
  have hinside : (quotedDisk manifest).directory? quotedSource
      = some (quotedDirectory manifest) := by
    cbv
  have hlists : (quotedDisk manifest).ListsBelow quotedSource (quotedDirectory manifest) :=
    Disk.forall_places_of_all (by cbv)
  have hreads : (quotedDisk manifest).ReadsBelow quotedSource (quotedDirectory manifest) :=
    Disk.forall_places_of_all (by cbv)
  have hfile : (quotedDirectory manifest).at? [Utf8.encode "a.decl.json"]
      = some (.file (Utf8.encode quotedManifest)) := by
    rw [hmanifest]
    cbv
  have hload := Report.load_manifestOfNamed .compact
    (quotedSource.below [Utf8.encode "a.decl.json"]) "A\"\n" "N\\\x01" "I\t"
  exact Disk.load_of_single htree hinside hlists hreads (discovers_quotedDirectory manifest) hfile
    hload

/-- What is told of the directory. -/
def quotedSummary : Value :=
  .object
    [("classes", .number (.ofNat 1)),
     ("interfaces", .number (.ofNat 0)),
     ("namespaces", .list [.object
       [("classes", .number (.ofNat 1)),
        ("interfaces", .number (.ofNat 0)),
        ("name", .text "N\\\x01")]]),
     ("relationships", .list [.text "A\"\n --|> I\t"]),
     ("source", .text "/\"\uFFFD")]

theorem summary_quotedClass :
    Inspection.summary quotedSource [quotedClass]
      (RelationshipSet.infer {} [quotedClass] (.ofList [quotedClass])) = quotedSummary := by
  have hnamespaces : namespacesOf [quotedClass] = ["N\\\x01"] := by cbv
  have hclasses : (classesOf [quotedClass] "N\\\x01").length = 1 := by decide
  have hinterfaces : (interfacesOf [quotedClass] "N\\\x01").length = 0 := by decide
  have hlines : (RelationshipSet.infer {} [quotedClass] (.ofList [quotedClass])).lines
      = ["A\"\n --|> I\t"] := by
    decide
  have hsource : Utf8.lossy quotedSource.bytes = "/\"\uFFFD" := by decide
  simp only [Inspection.summary, Inspection.classTotal, Inspection.interfaceTotal,
    Inspection.namespaceValue, hnamespaces, hlines, hsource, List.map_cons, List.map_nil,
    List.sum_cons, List.sum_nil, hclasses, hinterfaces, Nat.add_zero, quotedSummary]

/-- Quotes, backslashes, control characters and ends of lines come back from the
    text as they are, and of the path what can be shown. -/
theorem inspect_json_faithful_quoted :
    let disk := quotedDisk (Utf8.encode quotedManifest)
    let invocation : Invocation := { command := .inspect (some quotedSource) true }
    sourceOr {} disk (some quotedSource) = .ok quotedSource
      ∧ disk.load quotedSource = .ok [quotedClass]
      ∧ ∀ v : Value, v.SpelledAs (invocation.run {} disk).stdout ↔ v = quotedSummary := by
  intro disk invocation
  have hsource : sourceOr {} disk (some quotedSource) = .ok quotedSource := rfl
  obtain ⟨stdout, -, hread, -, -, -, -, hruns⟩ := inspect_json_faithful hsource load_quotedDisk
  obtain ⟨-, hstdout, -⟩ := hruns {} invocation (Environment.unindented_unset.ne_unreadableFilter _)
  refine ⟨hsource, load_quotedDisk, ?_⟩
  intro v
  rw [← summary_quotedClass, ← hread v, ← hstdout]
  rfl

end CommandLine

end ClassAtlas
