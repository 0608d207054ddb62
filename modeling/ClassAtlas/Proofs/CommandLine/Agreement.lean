import ClassAtlas.CommandLine.Run
import ClassAtlas.Proofs.Disk.Writing
import ClassAtlas.Proofs.Generation.Loading
import ClassAtlas.Proofs.Text.Utf8

/-! # One document, wherever it goes

    A diagram is printed or written into a file, and each way finds its source
    directory on its own.  The document is the same in both (`generate_agrees`):
    it is the one of the entities below the source directory, and after these are
    loaded a run can only fail to find the place for its file, or to write it.
-/

namespace ClassAtlas

/-! ## Generators -/

namespace Generator

/-- Once the source is loaded, only the writing can fail. -/
theorem generate_cases {g : Generator} (hsink : g.sink = .disk) {disk : Disk} {source : Path}
    {es : List Entity} (h : disk.load source = .ok es) (output : Path) :
    (∃ disk', g.generate disk source output
          = (disk', .ok ⟨output.join (.ofString g.settings.outputFile),
              (Report.ofEntities disk.cwdPath g.settings.types es).document⟩)
        ∧ disk'.contents? (output.join (.ofString g.settings.outputFile))
          = some (Utf8.encode (Report.ofEntities disk.cwdPath g.settings.types es).document))
      ∨ ∃ disk' path e, g.generate disk source output = (disk', .error (.outputWrite path e)) := by
  rw [g.generate_of_load h, deliver, hsink]
  exact disk.writeDocument_cases output g.settings.outputFile _

end Generator

namespace CommandLine

open Command (sourceOr reportOn)

/-- The generator of a command that generates. -/
def generatorWith (builtIns : List String) : Generator := { settings := { builtIns } }

/-- The root of the project around the current directory. -/
def rootAround (disk : Disk) : Except GenerationError Path :=
  disk.resolveRoot (.markers RootRule.projectExtensions) disk.cwdPath

/-- The file of the document. -/
def documentPath (output : Path) : Path := output.join (.ofString "ClassDiagrams.puml")

/-- The document of the entities below the source directory. -/
def IsDocument (disk : Disk) (source? : Option Path) (builtIns : List String) (document : String) :
    Prop :=
  ∃ source es, sourceOr (generatorWith builtIns) disk source? = .ok source
    ∧ disk.load source = .ok es
    ∧ (Report.ofEntities disk.cwdPath { extra := builtIns } es).document = document

theorem IsDocument.unique {disk : Disk} {source? : Option Path} {builtIns : List String}
    {first second : String} (h : IsDocument disk source? builtIns first)
    (h' : IsDocument disk source? builtIns second) : first = second := by
  obtain ⟨source, es, hsource, hload, rfl⟩ := h
  obtain ⟨source', es', hsource', hload', rfl⟩ := h'
  cases hsource.symm.trans hsource'
  cases hload.symm.trans hload'
  rfl

/-- The error has nothing to do with the manifests. -/
def IsOutsideLoading (disk : Disk) (e : GenerationError) : Prop :=
  rootAround disk = .error e ∨ ∃ path cause, e = .outputWrite path cause

section

variable {disk : Disk} {source? output? : Option Path} {builtIns : List String}

/-! ## Locations -/

/-- Both ways choose the same source directory. -/
theorem sourceOr_of_locations {g : Generator} {l : Locations}
    (h : g.locations disk disk.cwdPath source? output? = .ok l) :
    sourceOr g disk source? = .ok l.source := by
  unfold Generator.locations at h
  split at h
  · cases h
    rfl
  · cases hroot : disk.resolveRoot g.rootRule disk.cwdPath with
    | error e =>
      rw [hroot] at h
      cases h
    | ok root =>
      rw [hroot] at h
      cases h
      cases source? with
      | none => exact hroot
      | some source => rfl

/-- The locations are missing only where a root is. -/
theorem resolveRoot_of_locations {g : Generator} {e : GenerationError}
    (h : g.locations disk disk.cwdPath source? output? = .error e) :
    disk.resolveRoot g.rootRule disk.cwdPath = .error e := by
  unfold Generator.locations at h
  split at h
  · cases h
  · cases hroot : disk.resolveRoot g.rootRule disk.cwdPath with
    | error e' =>
      rw [hroot] at h
      cases h
      rfl
    | ok root =>
      rw [hroot] at h
      cases h

/-! ## Commands -/

theorem reportOn_eq_ok_iff {g : Generator} {found : Path × Report} :
    reportOn g disk source? = .ok found
      ↔ sourceOr g disk source? = .ok found.1 ∧ g.inspect disk found.1 = .ok found.2 := by
  unfold reportOn
  cases sourceOr g disk source? with
  | error e => simp [bind, Except.bind]
  | ok source =>
    cases hinspect : g.inspect disk source with
    | error e =>
      simp only [bind, Except.bind, hinspect]
      refine iff_of_false nofun ?_
      rintro ⟨hsource, hfound⟩
      cases hsource
      cases hinspect.symm.trans hfound
    | ok report =>
      simp only [bind, Except.bind, hinspect]
      constructor
      · intro h
        cases h
        exact ⟨rfl, hinspect⟩
      · rintro ⟨hsource, hfound⟩
        cases hsource
        cases hinspect.symm.trans hfound
        rfl

/-- The document is printed, and the disk is left alone. -/
theorem perform_toStdout_eq_ok_iff {disk' : Disk} {text : String} :
    (Command.generate source? output? builtIns true).perform disk = (disk', .ok text)
      ↔ disk' = disk ∧ IsDocument disk source? builtIns text := by
  have hperform : (Command.generate source? output? builtIns true).perform disk
      = (disk, (reportOn (generatorWith builtIns) disk source?).map (·.2.document)) := rfl
  rw [hperform]
  constructor
  · intro h
    cases hreport : reportOn (generatorWith builtIns) disk source? with
    | error e =>
      rw [hreport] at h
      cases h
    | ok found =>
      rw [hreport] at h
      cases h
      obtain ⟨hsource, hinspect⟩ := reportOn_eq_ok_iff.1 hreport
      obtain ⟨es, hload, hes⟩ := Generator.inspect_eq_ok_iff.1 hinspect
      exact ⟨rfl, found.1, es, hsource, hload, congrArg Report.document hes⟩
  · rintro ⟨rfl, source, es, hsource, hload, rfl⟩
    have hinspect : (generatorWith builtIns).inspect disk' source
        = .ok (Report.ofEntities disk'.cwdPath { extra := builtIns } es) :=
      Generator.inspect_eq_ok_iff.2 ⟨es, hload, rfl⟩
    have hreport : reportOn (generatorWith builtIns) disk' source? = .ok (source, _) :=
      reportOn_eq_ok_iff.2 ⟨hsource, hinspect⟩
    rw [hreport]
    rfl

/-- The path of the document is printed, or the error is passed on. -/
theorem perform_toFile {found : Except GenerationError Locations} {disk' : Disk}
    {result : Except GenerationError Artifact}
    (h : (generatorWith builtIns).locations disk disk.cwdPath source? output? = found)
    (hgenerate : (generatorWith builtIns).generateAt disk found = (disk', result)) :
    (Command.generate source? output? builtIns false).perform disk
      = (disk', result.map (·.path.shown ++ "\n")) := by
  subst h
  have hperform : (Command.generate source? output? builtIns false).perform disk
      = (((generatorWith builtIns).generateAt disk
            ((generatorWith builtIns).locations disk disk.cwdPath source? output?)).1,
          ((generatorWith builtIns).generateAt disk
            ((generatorWith builtIns).locations disk disk.cwdPath source? output?)).2.map
              (·.path.shown ++ "\n")) := rfl
  rw [hperform, hgenerate]

/-- The document is written, or there is an error outside loading, or nothing to
    be written. -/
theorem perform_toFile_cases (disk : Disk) (source? output? : Option Path) (builtIns : List String) :
    (∃ l document disk',
        (generatorWith builtIns).locations disk disk.cwdPath source? output? = .ok l
          ∧ IsDocument disk source? builtIns document
          ∧ (generatorWith builtIns).generate disk l.source l.output
            = (disk', .ok ⟨documentPath l.output, document⟩)
          ∧ (Command.generate source? output? builtIns false).perform disk
            = (disk', .ok ((documentPath l.output).shown ++ "\n"))
          ∧ disk'.contents? (documentPath l.output) = some (Utf8.encode document))
      ∨ ∃ disk' e, (Command.generate source? output? builtIns false).perform disk = (disk', .error e)
          ∧ (IsOutsideLoading disk e ∨ ∀ document, ¬ IsDocument disk source? builtIns document) := by
  cases hfound : (generatorWith builtIns).locations disk disk.cwdPath source? output? with
  | error e =>
    exact .inr ⟨disk, e, perform_toFile hfound rfl, .inl (.inl (resolveRoot_of_locations hfound))⟩
  | ok l =>
    have hsource := sourceOr_of_locations hfound
    cases hload : disk.load l.source with
    | error e =>
      have hgenerate := (generatorWith builtIns).generate_of_load_error hload l.output
      refine .inr ⟨disk, e, perform_toFile hfound hgenerate, .inr ?_⟩
      rintro document ⟨source, es, hsource', hload', -⟩
      cases hsource.symm.trans hsource'
      cases hload.symm.trans hload'
    | ok es =>
      rcases Generator.generate_cases (g := generatorWith builtIns) rfl hload l.output with
        ⟨disk', hgenerate, hcontents⟩ | ⟨disk', path, cause, hgenerate⟩
      · exact .inl ⟨l, _, disk', rfl, ⟨l.source, es, hsource, hload, rfl⟩, hgenerate,
          perform_toFile hfound hgenerate, hcontents⟩
      · exact .inr ⟨disk', .outputWrite path cause, perform_toFile hfound hgenerate,
          .inl (.inr ⟨path, cause, rfl⟩)⟩

end

/-! ## Runs -/

namespace Invocation

section

variable {env : Environment} {disk disk' : Disk} {invocation : Invocation}

theorem run_of_ok {text : String} (hstart : Logger.ofInvocation env invocation ≠ .unreadableFilter)
    (h : invocation.command.perform disk = (disk', .ok text)) :
    (invocation.run env disk).exitCode = 0 ∧ (invocation.run env disk).stdout = text
      ∧ (invocation.run env disk).disk = disk' := by
  simp [run, hstart, h]

/-- The last that is said is the error. -/
theorem run_of_error {e : GenerationError}
    (hstart : Logger.ofInvocation env invocation ≠ .unreadableFilter)
    (h : invocation.command.perform disk = (disk', .error e)) :
    (invocation.run env disk).exitCode = 1
      ∧ (invocation.run env disk).said.getLast? = some ("Error: " ++ e.report ++ "\n") := by
  simp [run, hstart, h, story, Notice.text?]

/-- A run succeeds just if it logs as it is told and its command succeeds. -/
theorem exitCode_run_eq_zero_iff :
    (invocation.run env disk).exitCode = 0
      ↔ Logger.ofInvocation env invocation ≠ .unreadableFilter
        ∧ ∃ disk' text, invocation.command.perform disk = (disk', .ok text) := by
  by_cases hstart : Logger.ofInvocation env invocation = .unreadableFilter
  · simp [run, hstart]
  · rcases hperform : invocation.command.perform disk with ⟨disk', e | text⟩
    · have hrun := (run_of_error hstart hperform).1
      simp [hrun]
    · have hrun := (run_of_ok hstart hperform).1
      simp [hrun, hstart]

end

/-- An invocation that writes the document into a file. -/
def toFile (invocation : Invocation) (source? output? : Option Path) (builtIns : List String) :
    Invocation :=
  { invocation with command := .generate source? output? builtIns false }

/-- An invocation that prints the document. -/
def toStdout (invocation : Invocation) (source? : Option Path) (builtIns : List String) :
    Invocation :=
  { invocation with command := .generate source? none builtIns true }

end Invocation

namespace Outcome

/-- The run wrote the document into its file and said where. -/
structure Wrote (disk : Disk) (source? output? : Option Path) (builtIns : List String)
    (document : String) (o : Outcome) : Prop where
  exitCode : o.exitCode = 0
  file : ∃ l, (generatorWith builtIns).locations disk disk.cwdPath source? output? = .ok l
    ∧ o.stdout = (documentPath l.output).shown ++ "\n"
    ∧ o.disk.contents? (documentPath l.output) = some (Utf8.encode document)

theorem Wrote.unique {disk : Disk} {source? output? : Option Path} {builtIns : List String}
    {first second : String} {o : Outcome} (h : o.Wrote disk source? output? builtIns first)
    (h' : o.Wrote disk source? output? builtIns second) : first = second := by
  obtain ⟨l, hfound, -, hcontents⟩ := h.file
  obtain ⟨l', hfound', -, hcontents'⟩ := h'.file
  cases hfound.symm.trans hfound'
  exact Utf8.encode_injective (Option.some.inj (hcontents.symm.trans hcontents'))

/-- The run printed the document and did nothing else. -/
structure Printed (disk : Disk) (document : String) (o : Outcome) : Prop where
  exitCode : o.exitCode = 0
  stdout : o.stdout = document
  disk : o.disk = disk

/-- The run ended with an error that has nothing to do with the manifests. -/
def FailedOutsideLoading (disk : Disk) (o : Outcome) : Prop :=
  o.exitCode = 1
    ∧ ∃ e, o.said.getLast? = some ("Error: " ++ e.report ++ "\n") ∧ IsOutsideLoading disk e

end Outcome

/-! ## Agreement -/

section

variable {env : Environment} {disk : Disk} {invocation : Invocation} {source? output? : Option Path}
  {builtIns : List String}

theorem printed_iff {document : String} :
    ((invocation.toStdout source? builtIns).run env disk).Printed disk document
      ↔ Logger.ofInvocation env invocation ≠ .unreadableFilter
        ∧ IsDocument disk source? builtIns document := by
  constructor
  · intro h
    obtain ⟨hstart, disk', text, hperform⟩ := Invocation.exitCode_run_eq_zero_iff.1 h.exitCode
    have hstdout := (Invocation.run_of_ok hstart hperform).2.1
    obtain ⟨-, hdocument⟩ := perform_toStdout_eq_ok_iff.1 hperform
    refine ⟨hstart, ?_⟩
    rwa [← h.stdout, hstdout]
  · rintro ⟨hstart, hdocument⟩
    have hstart' : Logger.ofInvocation env (invocation.toStdout source? builtIns)
        ≠ .unreadableFilter := hstart
    have hperform : (invocation.toStdout source? builtIns).command.perform disk = (disk, .ok document) :=
      perform_toStdout_eq_ok_iff.2 ⟨rfl, hdocument⟩
    obtain ⟨hexit, hstdout, hdisk⟩ := Invocation.run_of_ok hstart' hperform
    exact ⟨hexit, hstdout, hdisk⟩

/-- What comes of a run that is to write its document. -/
theorem toFile_cases (hstart : Logger.ofInvocation env invocation ≠ .unreadableFilter) :
    (∃ l document,
        (generatorWith builtIns).locations disk disk.cwdPath source? output? = .ok l
          ∧ IsDocument disk source? builtIns document
          ∧ (generatorWith builtIns).generate disk l.source l.output
            = (((invocation.toFile source? output? builtIns).run env disk).disk,
              .ok ⟨documentPath l.output, document⟩)
          ∧ ((invocation.toFile source? output? builtIns).run env disk).Wrote
              disk source? output? builtIns document)
      ∨ ((invocation.toFile source? output? builtIns).run env disk).exitCode = 1
        ∧ (((invocation.toFile source? output? builtIns).run env disk).FailedOutsideLoading disk
          ∨ ∀ document, ¬ IsDocument disk source? builtIns document) := by
  have hstart' : Logger.ofInvocation env (invocation.toFile source? output? builtIns)
      ≠ .unreadableFilter := hstart
  rcases perform_toFile_cases disk source? output? builtIns with
    ⟨l, document, disk', hfound, hdocument, hgenerate, hperform, hcontents⟩
      | ⟨disk', e, hperform, he⟩
  · obtain ⟨hexit, hstdout, hdisk⟩ := Invocation.run_of_ok hstart' hperform
    subst hdisk
    exact .inl ⟨l, document, hfound, hdocument, hgenerate, hexit, l, hfound, hstdout, hcontents⟩
  · obtain ⟨hexit, hsaid⟩ := Invocation.run_of_error hstart' hperform
    refine .inr ⟨hexit, ?_⟩
    rcases he with hout | hnone
    · exact .inl ⟨hexit, e, hsaid, hout⟩
    · exact .inr hnone

/-- What was written was generated at the locations of the run. -/
theorem Outcome.Wrote.generated {document : String}
    (h : ((invocation.toFile source? output? builtIns).run env disk).Wrote
      disk source? output? builtIns document) :
    ∃ l, Logger.ofInvocation env invocation ≠ .unreadableFilter
      ∧ IsDocument disk source? builtIns document
      ∧ (generatorWith builtIns).locations disk disk.cwdPath source? output? = .ok l
      ∧ (generatorWith builtIns).generate disk l.source l.output
        = (((invocation.toFile source? output? builtIns).run env disk).disk,
          .ok ⟨documentPath l.output, document⟩) := by
  obtain ⟨hstart, -⟩ := Invocation.exitCode_run_eq_zero_iff.1 h.exitCode
  rcases toFile_cases hstart with ⟨l, document', hfound, hdocument, hgenerate, hwrote⟩ | ⟨hone, -⟩
  · cases h.unique hwrote
    exact ⟨l, hstart, hdocument, hfound, hgenerate⟩
  · cases hone.symm.trans h.exitCode

/-- All ways to generate come to the same document.  What a run writes is what a
    run prints that is told the same sources and built-in types.  What is printed
    is also written, unless the search for the root or the writing fails.  Without
    further built-in types it is the document of the entities that are loaded,
    and what a generator writes that is told the directories. -/
theorem generate_agrees (env : Environment) (disk : Disk) (invocation : Invocation)
    (source? output? : Option Path) (builtIns : List String) :
    let written := (invocation.toFile source? output? builtIns).run env disk
    let printed := (invocation.toStdout source? builtIns).run env disk
    (written.exitCode = 0 → ∃ document, written.Wrote disk source? output? builtIns document)
    ∧ (∀ document, written.Wrote disk source? output? builtIns document →
        printed.Printed disk document)
    ∧ (∀ document, printed.Printed disk document →
        written.Wrote disk source? output? builtIns document ∨ written.FailedOutsideLoading disk)
    ∧ (builtIns = [] → ∀ document, printed.Printed disk document →
        ∃ source es, sourceOr {} disk source? = .ok source ∧ disk.load source = .ok es
          ∧ ClassAtlas.generate disk.cwdPath es = document
          ∧ ∀ output,
            (∃ disk', ({} : Generator).generate disk source output
                = (disk', .ok ⟨documentPath output, document⟩)
              ∧ disk'.contents? (documentPath output) = some (Utf8.encode document))
            ∨ ∃ disk' path cause, ({} : Generator).generate disk source output
                = (disk', .error (.outputWrite path cause)))
    ∧ (builtIns = [] → ∀ document, written.Wrote disk source? output? builtIns document →
        ∃ l, ({} : Generator).locations disk disk.cwdPath source? output? = .ok l
          ∧ ({} : Generator).generate disk l.source l.output
            = (written.disk, .ok ⟨documentPath l.output, document⟩)) := by
  intro written printed
  refine ⟨?_, ?_, ?_, ?_, ?_⟩
  · -- a run that ends well has written its document
    intro hexit
    obtain ⟨hstart, -⟩ := Invocation.exitCode_run_eq_zero_iff.1 hexit
    rcases toFile_cases hstart with ⟨l, document, -, -, -, hwrote⟩ | ⟨hone, -⟩
    · exact ⟨document, hwrote⟩
    · cases hone.symm.trans hexit
  · -- the file holds the document of the source directory, which is what is printed
    intro document hwrote
    obtain ⟨l, hstart, hdocument, -⟩ := hwrote.generated
    exact printed_iff.2 ⟨hstart, hdocument⟩
  · -- what is printed was loaded, so a failure has another cause
    intro document hprinted
    obtain ⟨hstart, hdocument⟩ := printed_iff.1 hprinted
    rcases toFile_cases hstart with ⟨l, document', -, hdocument', -, hwrote⟩ | ⟨-, hfailed | hnone⟩
    · cases hdocument.unique hdocument'
      exact .inl hwrote
    · exact .inr hfailed
    · exact absurd hdocument (hnone document)
  · rintro rfl document hprinted
    obtain ⟨-, source, es, hsource, hload, rfl⟩ := printed_iff.1 hprinted
    refine ⟨source, es, hsource, hload, rfl, fun output => ?_⟩
    exact Generator.generate_cases rfl hload output
  · rintro rfl document hwrote
    obtain ⟨l, -, -, hfound, hgenerate⟩ := hwrote.generated
    exact ⟨l, hfound, hgenerate⟩

end

/-- A project whose diagrams go through a link to a directory beside it. -/
def linkedProject : Directory :=
  .directory (Utf8.encode ".git") .empty
    (.directory (Utf8.encode "src")
      (.file (Utf8.encode "a.decl.json") (Utf8.encode Disk.manifestOfClass) .empty)
      (.link (Utf8.encode "out") (.ofString "/www/") .empty))

def linkedDisk (www : Directory) : Disk where
  top := .directory (Utf8.encode "game") linkedProject (.directory (Utf8.encode "www") www .empty)
  cwd := [Utf8.encode "game", Utf8.encode "src"]

/-- The directory behind the link, with the diagram. -/
def withDiagram (diagram : Bytes) : Directory :=
  .directory (Utf8.encode "new") (.file (Utf8.encode "ClassDiagrams.puml") diagram .empty) .empty

theorem load_linkedDisk :
    (linkedDisk .empty).load (.ofString "/game")
      = .ok [Disk.classOfManifest (.ofString "/game/src/a.decl.json")] := by
  have htree : (linkedDisk .empty).top.IsTree := by decide +kernel
  have hsource : (linkedDisk .empty).directory? (.ofString "/game") = some linkedProject := by cbv
  have hinside : linkedProject.IsTree := by decide +kernel
  have hplaces : linkedProject.Discovers [[Utf8.encode "src", Utf8.encode "a.decl.json"]] :=
    hinside.discovers_of_perm (by decide +kernel) (by decide +kernel)
  have hpath : (Path.ofString "/game").below [Utf8.encode "src", Utf8.encode "a.decl.json"]
      = .ofString "/game/src/a.decl.json" := by decide +kernel
  rw [Disk.load_of_manifestOfClass htree hsource (Disk.forall_places_of_all (by cbv))
    (Disk.forall_places_of_all (by cbv)) hplaces (by decide +kernel), hpath]

def linkedDocument : String :=
  ClassAtlas.generate (linkedDisk .empty).cwdPath
    [Disk.classOfManifest (.ofString "/game/src/a.decl.json")]

/-- The run that writes the diagram through the link. -/
def linkedInvocation : Invocation :=
  Invocation.toFile { command := .root none } none (some (.ofString "../out/new")) []

/-- The sources are found around the current directory, and the diagram goes
    through the link into a directory that is made for it. -/
theorem generate_agrees_through_link :
    (linkedInvocation.run {} (linkedDisk .empty)).Wrote
        (linkedDisk .empty) none (some (.ofString "../out/new")) [] linkedDocument
      ∧ ((linkedInvocation.toStdout none []).run {} (linkedDisk .empty)).Printed
        (linkedDisk .empty) linkedDocument
      ∧ (linkedInvocation.run {} (linkedDisk .empty)).disk
        = linkedDisk (withDiagram (Utf8.encode linkedDocument)) := by
  have hstart : Logger.ofInvocation {} linkedInvocation ≠ .unreadableFilter := by decide +kernel
  have hlocations : (generatorWith []).locations (linkedDisk .empty) (linkedDisk .empty).cwdPath none
      (some (.ofString "../out/new")) = .ok ⟨.ofString "/game", .ofString "../out/new"⟩ := by cbv
  have hmake : (linkedDisk .empty).makeDirectories (.ofString "../out/new")
      = (linkedDisk (.directory (Utf8.encode "new") .empty .empty), .ok ()) := by cbv
  have hpath : (Path.ofString "../out/new").join (.ofString "ClassDiagrams.puml")
      = documentPath (.ofString "../out/new") := rfl
  have hfile : ∀ contents, (linkedDisk (.directory (Utf8.encode "new") .empty .empty)).writeFile
      (documentPath (.ofString "../out/new")) contents = .ok (linkedDisk (withDiagram contents)) := by
    intro contents
    cbv
  have hgenerate : (generatorWith []).generate (linkedDisk .empty) (.ofString "/game")
      (.ofString "../out/new") = (linkedDisk (withDiagram (Utf8.encode linkedDocument)),
        .ok ⟨documentPath (.ofString "../out/new"), linkedDocument⟩) := by
    rw [Generator.generate_of_load _ load_linkedDisk]
    show (linkedDisk .empty).writeDocument _ "ClassDiagrams.puml" linkedDocument = _
    rw [Disk.writeDocument, hmake]
    simp only [hpath, hfile]
  have hperform : linkedInvocation.command.perform (linkedDisk .empty)
      = (linkedDisk (withDiagram (Utf8.encode linkedDocument)),
        .ok ((documentPath (.ofString "../out/new")).shown ++ "\n")) :=
    perform_toFile hlocations hgenerate
  obtain ⟨hexit, -, hdisk⟩ := Invocation.run_of_ok hstart hperform
  obtain ⟨hwrites, hprints, -, -, hdirectories⟩ :=
    generate_agrees {} (linkedDisk .empty) linkedInvocation none (some (.ofString "../out/new")) []
  -- the run ends well, so it has written a document, and it is the one that was generated
  obtain ⟨document, hwrote⟩ := hwrites hexit
  obtain ⟨l, hlocations', hgenerate'⟩ := hdirectories rfl document hwrote
  cases hlocations.symm.trans hlocations'
  obtain ⟨-, hartifact⟩ := Prod.mk.inj (hgenerate.symm.trans hgenerate')
  obtain ⟨-, rfl⟩ := Artifact.mk.inj (Except.ok.inj hartifact)
  exact ⟨hwrote, hprints _ hwrote, hdisk⟩

end CommandLine

end ClassAtlas
