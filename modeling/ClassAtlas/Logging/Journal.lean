import ClassAtlas.Generation
import ClassAtlas.Logging.Record

/-! # Journals

    The records of the parts of a run, told from what each part was given and
    what came of it.
-/

namespace ClassAtlas.Journal

open LogRecord (event)

/-! ## Finding the root -/

/-- The directories above a start that were searched for project files and
    could not be listed. -/
def unlisted (disk : Disk) (extensions : List String) (start : Path) : List Path :=
  (start.ancestors.takeWhile (! disk.hasProjectFile extensions ·)).filter (! disk.isDirectory ·)

/-- The records of looking for the project root. -/
def ofRoot (disk : Disk) (rule : RootRule) (start : Path) : List LogRecord :=
  event .debug .run "Resolving project root" ["resolver"] ::
  match rule with
  | .fixed _ => []
  | .markers extensions =>
    Span.around ⟨.debug, .root, "resolve_root", [("start", .text start.shown)]⟩ <|
      match Path.absolute? disk.cwdPath start with
      | none => []
      | some start =>
        if (disk.findMarked start).isSome then
          [event .info .root "Resolved project root from version control" ["root"]]
        else
          event .debug .root "No version control root found, looking for project files" [] ::
          (unlisted disk extensions start).map
            (fun _ => event .trace .root "Skipping unreadable directory" ["dir"]) ++
          if (disk.findProject extensions start).isSome then
            [event .info .root "Resolved project root from project file" ["root"]]
          else []

/-! ## Making the report -/

/-- The records of loading a source directory. -/
def ofLoad (disk : Disk) (source : Path) : List LogRecord :=
  Span.around ⟨.info, .manifests, "load_manifests", [("root", .text source.shown)]⟩ <|
    match disk.directory? source with
    | none => []
    | some inside =>
      let search := disk.searchBelow source inside
      search.found.map (fun _ => event .trace .manifests "Found manifest" ["path"]) ++
      if search.failure?.isSome then []
      else
        let read := search.found.takeWhile fun path => (disk.loadManifest path).toBool
        event .debug .manifests "Discovered manifests" ["manifest_count"] ::
        read.map (fun _ =>
          event .trace .manifests "Read manifest" ["path", "declaration_count"]) ++
        if read.length = search.found.length then
          [event .info .manifests "Loaded declarations" ["manifest_count", "declaration_count"]]
        else []

/-- The records of making a report on entities. -/
def ofReport (types : BuiltInTypes) (es : List Entity) : List LogRecord :=
  let index := NamespaceIndex.ofList es
  let inferred := es.flatMap (·.inheritances) ++ index.associations types
  let edges := RelationshipSet.infer types es index
  let duplicates := inferred.length - edges.size
  let declared := ("declaration_count", FieldValue.count es.length)
  Span.around ⟨.info, .pipeline, "generate", [declared]⟩ <|
    Span.around ⟨.debug, .index, "index_namespaces", [declared]⟩
      (es.map (fun _ => event .trace .index "Indexing declaration" ["name", "namespace", "kind"])
        ++ [event .debug .index "Indexed declarations"
              ["namespace_count", "class_count", "interface_count"]]) ++
    Span.around ⟨.debug, .inference, "infer_relationships", [declared]⟩
      (List.replicate duplicates (event .trace .inference "Skipping duplicate relationship" ["edge"])
        ++ [event .debug .inference "Inferred relationships"
              ["inheritance_count", "association_count"]]) ++
    Span.around ⟨.debug, .rendering, "render_document",
        [("namespace_count", .count index.packages.length),
          ("relationship_count", .count edges.size)]⟩
      [event .debug .rendering "Rendering completed" ["output_len"]] ++
    [event .info .pipeline "Generated diagram"
      ["namespace_count", "class_count", "interface_count", "relationship_count"]]

/-- The records of reporting on a source directory. -/
def ofInspect (g : Generator) (disk : Disk) (source : Path) : List LogRecord :=
  event .debug .run "Loading declarations" ["source"] ::
  ofLoad disk source ++
  match disk.load source with
  | .error _ => []
  | .ok es => ofReport g.settings.types es

/-! ## Writing the document -/

/-- The records of a run with known directories. -/
def ofGenerate (g : Generator) (disk : Disk) (source output : Path) : List LogRecord :=
  let isLoaded := (g.inspect disk source).toBool
  let isWritten := (g.generate disk source output).2.toBool
  Span.around ⟨.info, .run, "generate_run", [("output", .text output.shown)]⟩ <|
    ofInspect g disk source ++
    (if isLoaded then
      event .debug .run "Writing document" ["writer"] ::
      Span.around ⟨.debug, .output, "write_document", [("dir", .text output.shown)]⟩
        (if isWritten then [event .info .output "Wrote diagram" ["path", "bytes"]] else [])
    else []) ++
    if isWritten then [event .info .run "Generation completed" ["path"]] else []

end ClassAtlas.Journal
