import Mathlib
import ClassAtlas.Proofs.Disk.Written
import ClassAtlas.Proofs.Generation.Loading
import ClassAtlas.Proofs.ProjectRoot.Unmoved

/-! # Generating once more

    The diagram of a project is written below its root, into the very directory
    whose manifests are read.  The next run does not see it: neither the file nor
    its directory is a manifest or marks a root, and what else the run looks at
    is where it was.  So the same diagram is written to the same place, and the
    disk stays as it is (`Generator.generateDefault_twice`).
-/

namespace ClassAtlas

/-! ## What a search sees -/

/-- A search does not look into a directory to judge it. -/
theorem Discovery.at?_shallow (place : Place) (e : Entry) : at? place e.shallow = at? place e := by
  induction place with
  | nil => rfl
  | cons name names ih =>
    by_cases hnames : names = []
    · subst hnames
      cases e <;> rfl
    · rw [at?_cons hnames, at?_cons hnames, ih]

namespace Directory

theorem IsTree.mem_discoveries_iff {d : Directory} (h : d.IsTree) {place : Place} {kind : Discovery} :
    (place, kind) ∈ d.discoveries
      ↔ place ≠ [] ∧ ∃ e, d.at? place = some e ∧ Discovery.at? place e = some kind := by
  rw [Directory.mem_discoveries_iff]
  constructor
  · rintro ⟨e, hmem, hkind⟩
    obtain ⟨hne, hat⟩ := h.mem_places_iff.1 hmem
    exact ⟨hne, e, hat, hkind⟩
  · rintro ⟨hne, e, hat, hkind⟩
    exact ⟨e, h.mem_places_iff.2 ⟨hne, hat⟩, hkind⟩

/-- Where two trees are alike, a search comes upon the same. -/
theorem mem_discoveries_of_shallow_eq {d d' : Directory} (h : d.IsTree) (h' : d'.IsTree)
    {place : Place} (hsame : (d'.at? place).map Entry.shallow = (d.at? place).map Entry.shallow)
    {kind : Discovery} (hfound : (place, kind) ∈ d.discoveries) : (place, kind) ∈ d'.discoveries := by
  obtain ⟨hne, e, hat, hkind⟩ := h.mem_discoveries_iff.1 hfound
  rw [hat] at hsame
  obtain ⟨e', hat', he⟩ := Option.map_eq_some_iff.1 hsame
  refine h'.mem_discoveries_iff.2 ⟨hne, e', hat', ?_⟩
  rw [← Discovery.at?_shallow, he, Discovery.at?_shallow, hkind]

end Directory

namespace Disk

/-! ## Loading after a document was written -/

section

variable {disk disk' : Disk} {apart root : Place} {source : Path} {inside inside' : Directory}
  {dir file : Name} {contents : Bytes} (hw : Written apart disk disk' root dir file contents)
  (htree : disk.top.IsTree) (hfree : disk.top.LinkFree)
  (hsource : disk.reach .visit source = .ok (.entry root (.directory inside)))

include hw hfree hsource

/-- The directory is reached as before. -/
theorem Written.reach_source :
    ∃ inside', disk'.reach .visit source = .ok (.entry root (.directory inside')) :=
  reach_directory_sameApart hfree hw.same (avoids_of_reach hfree hw.absent hsource) hsource

/-- Paths below the directory lead where they led, but for those of the change. -/
theorem Written.avoids_below {place : Place} (hproper : ∀ n ∈ place, n.IsProper)
    (hapart : ¬ apart <+: root ++ place) : disk.Avoids apart (source.below place) := by
  refine (avoids_of_reach hfree hw.absent hsource).below hproper ?_
  rw [← place_of_reach hfree hsource]
  exact hapart

variable (hsource' : disk'.reach .visit source = .ok (.entry root (.directory inside')))

include hsource'

omit hfree in
theorem Written.shallow_eq {place : Place} (hapart : ¬ apart <+: root ++ place) :
    (inside'.at? place).map Entry.shallow = (inside.at? place).map Entry.shallow := by
  have hat := at?_of_reach hsource
  have hat' := at?_of_reach hsource'
  have hsame := hw.same.top _ hapart
  rw [Directory.at?_append, Directory.at?_append, hat, hat'] at hsame
  exact hsame

variable (hdir : ¬ dir.IsManifest) (hfile : ¬ file.IsManifest)

include hdir hfile

omit hfree in
/-- What was written is no manifest, and no manifest stood in its place. -/
theorem Written.not_holdsManifest {place : Place} (hapart : apart <+: root ++ place) :
    ¬ inside.HoldsManifest place ∧ ¬ inside'.HoldsManifest place := by
  have hat := at?_of_reach hsource
  have hat' := at?_of_reach hsource'
  -- neither of the two places has a manifest's name
  have hname : root ++ place = root ++ [dir] ∨ root ++ place = root ++ [dir, file] →
      ¬ ∃ n ∈ place.getLast?, n.IsManifest := by
    rintro (hplace | hplace) ⟨n, hn, hmanifest⟩
    · cases List.append_cancel_left hplace
      cases hn
      exact hdir hmanifest
    · cases List.append_cancel_left hplace
      cases hn
      exact hfile hmanifest
  constructor
  · intro hold
    obtain ⟨contents, hheld⟩ := hold.file
    have htop : disk.top.at? (root ++ place) = some (.file contents) := by
      rw [Directory.at?_append, hat]
      exact hheld
    obtain ⟨more, hmore⟩ := hapart
    by_cases hnil : more = []
    · subst hnil
      rw [List.append_nil] at hmore
      exact hname (hmore ▸ hw.place) hold.name
    · rw [← hmore] at htop
      obtain ⟨d, hd⟩ := Directory.exists_directory_of_at? htop hnil
      exact hw.absent d hd
  · intro hnew
    obtain ⟨contents, hheld⟩ := hnew.file
    have htop : disk'.top.at? (root ++ place) = some (.file contents) := by
      rw [Directory.at?_append, hat']
      exact hheld
    exact hname (hw.only hapart htop) hnew.name

include htree

omit hfree in
/-- The manifests are those that there were. -/
theorem Written.discovers {places : List Place} (hplaces : inside.Discovers places) :
    inside'.Discovers places where
  ascending := hplaces.ascending
  mem_iff place := by
    have hinside : inside.IsTree := isTree_of_reach htree hsource
    have hinside' : inside'.IsTree := isTree_of_reach hw.tree hsource'
    rw [hplaces.mem_iff]
    by_cases hapart : apart <+: root ++ place
    · obtain ⟨hold, hnew⟩ :=
        hw.not_holdsManifest hsource hsource' hdir hfile hapart
      exact iff_of_false hold hnew
    · have hsame := hw.shallow_eq hsource hsource' hapart
      rw [← hinside.mem_discoveries_iff_holdsManifest, ← hinside'.mem_discoveries_iff_holdsManifest]
      exact ⟨Directory.mem_discoveries_of_shallow_eq hinside hinside' hsame,
        Directory.mem_discoveries_of_shallow_eq hinside' hinside hsame.symm⟩

omit hdir hfile in
/-- The search lists what it listed, and the directory of the document. -/
theorem Written.listsFound (hlists : disk.ListsFound source inside)
    (hmade : disk'.isDirectory (source.child dir)) : disk'.ListsFound source inside' := by
  have hinside : inside.IsTree := isTree_of_reach htree hsource
  have hat' := at?_of_reach hsource'
  have hinside' : inside'.IsTree := hw.tree.at? hat'
  intro place hfound
  obtain ⟨-, e, hheld, hkind⟩ := hinside'.mem_discoveries_iff.1 hfound
  by_cases hapart : apart <+: root ++ place
  · have htop : disk'.top.at? (root ++ place) = some e := by
      rw [Directory.at?_append, hat']
      exact hheld
    rcases hw.only hapart htop with hplace | hplace
    · cases List.append_cancel_left hplace
      exact hmade
    · -- a file is not searched
      rw [hplace, hw.held] at htop
      cases htop
      cases Discovery.isDirectory_of_at? hkind
  · have hold := Directory.mem_discoveries_of_shallow_eq hinside' hinside
      (hw.shallow_eq hsource hsource' hapart).symm hfound
    have haway := hw.avoids_below hfree hsource (hinside'.isProper_of_at? hheld) hapart
    rw [isDirectory_sameApart hfree hw.same haway]
    exact hlists place hold

/-- The manifests that were found are found again. -/
theorem Written.manifests_eq (hmade : disk'.isDirectory (source.child dir)) {paths : List Path}
    (hmanifests : disk.manifests source = .ok paths) : disk'.manifests source = .ok paths := by
  have hinside : inside.IsTree := isTree_of_reach htree hsource
  have hinside' : inside'.IsTree := isTree_of_reach hw.tree hsource'
  have hsome := directory?_eq_some_iff.2 ⟨root, hsource⟩
  have hsome' := directory?_eq_some_iff.2 ⟨root, hsource'⟩
  obtain ⟨hlists, places, hplaces, rfl⟩ := (manifests_eq_ok_iff hinside hsome).1 hmanifests
  have hplaces' := hw.discovers htree hsource hsource' hdir hfile hplaces
  have hlists' := hw.listsFound htree hfree hsource hsource' hlists hmade
  exact (manifests_eq_ok_iff hinside' hsome').2 ⟨hlists', places, hplaces', rfl⟩

/-- Each of them loads as before. -/
theorem Written.loadManifest_eq {paths : List Path} (hmanifests : disk.manifests source = .ok paths)
    {p : Path} (hp : p ∈ paths) : disk'.loadManifest p = disk.loadManifest p := by
  have hinside : inside.IsTree := isTree_of_reach htree hsource
  have hsome := directory?_eq_some_iff.2 ⟨root, hsource⟩
  obtain ⟨-, places, hplaces, rfl⟩ := (manifests_eq_ok_iff hinside hsome).1 hmanifests
  obtain ⟨place, hplace, rfl⟩ := List.mem_map.1 hp
  have hold := (hplaces.mem_iff place).1 hplace
  obtain ⟨contents, hheld⟩ := hold.file
  have hapart : ¬ apart <+: root ++ place := fun hapart =>
    (hw.not_holdsManifest hsource hsource' hdir hfile hapart).1 hold
  have haway := hw.avoids_below hfree hsource (hinside.isProper_of_at? hheld) hapart
  rw [loadManifest, loadManifest, read_sameApart hfree hw.same haway]

/-- What was loaded is loaded again. -/
theorem Written.load_eq (hmade : disk'.isDirectory (source.child dir)) {es : List Entity}
    (hload : disk.load source = .ok es) : disk'.load source = .ok es := by
  obtain ⟨paths, hmanifests⟩ := manifests_of_load hload
  have hmanifests' := hw.manifests_eq htree hfree hsource hsource' hdir hfile hmade hmanifests
  have hsame : ∀ p ∈ paths, disk'.loadManifest p = disk.loadManifest p := fun p hp =>
    hw.loadManifest_eq htree hfree hsource hsource' hdir hfile hmanifests hp
  rw [← hload, load, load, hmanifests, hmanifests']
  show paths.mapM disk'.loadManifest >>= _ = paths.mapM disk.loadManifest >>= _
  rw [mapM_congr_of_mem hsame]

end

end Disk

/-! ## The same run twice -/

namespace Generator

/-- A default run is a run from a root into the directory for diagrams below it. -/
theorem writeDocument_of_generateDefault {disk disk' : Disk} {start : Path} {artifact : Artifact}
    (h : ({} : Generator).generateDefault disk start = (disk', .ok artifact)) :
    ∃ root es, disk.resolveRoot (.markers RootRule.projectExtensions) start = .ok root
      ∧ disk.load root = .ok es
      ∧ disk.writeDocument (root.child (Utf8.encode "diagrams")) "ClassDiagrams.puml"
          (Report.ofEntities disk.cwdPath {} es).document = (disk', .ok artifact) := by
  cases hroot : disk.resolveRoot (.markers RootRule.projectExtensions) start with
  | error e =>
    rw [(({} : Generator).generate_of_resolveRoot_error hroot .empty).2] at h
    cases h
  | ok root =>
    rw [(({} : Generator).generate_of_resolveRoot hroot .empty).2] at h
    cases hload : disk.load root with
    | error e =>
      rw [generate_of_load_error _ hload] at h
      cases h
    | ok es =>
      rw [generate_of_load _ hload] at h
      exact ⟨root, es, rfl, hload, h⟩

/-- In a tree without links, a run that wrote its diagram writes the same diagram
    to the same file when it is repeated, and changes nothing: it starts from the
    same root and comes upon the same manifests. -/
theorem generateDefault_twice {disk disk' : Disk} (hdisk : disk.WellFormed)
    (hfree : disk.top.LinkFree) {start : Path} (hstart : disk.isDirectory start)
    {artifact : Artifact} (h : ({} : Generator).generateDefault disk start = (disk', .ok artifact)) :
    ({} : Generator).generateDefault disk' start = (disk', .ok artifact)
      ∧ disk'.contents? artifact.path = some (Utf8.encode artifact.document)
      ∧ ∃ root paths,
          disk.resolveRoot (.markers RootRule.projectExtensions) start = .ok root
          ∧ disk'.resolveRoot (.markers RootRule.projectExtensions) start = .ok root
          ∧ disk.manifests root = .ok paths ∧ disk'.manifests root = .ok paths := by
  obtain ⟨root, es, hroot, hload, hwrite⟩ := writeDocument_of_generateDefault h
  obtain ⟨-, -, -, -, inside, hinside⟩ := Disk.of_resolveRoot hdisk hroot
  obtain ⟨place, hreach⟩ := Disk.directory?_eq_some_iff.1 hinside
  have hdir : Disk.Usable (Utf8.encode "diagrams") := by decide +kernel
  have hfile : Disk.Usable (Utf8.encode "ClassDiagrams.puml") := by decide +kernel
  have hheld := Disk.contents?_of_writeDocument hwrite
  obtain ⟨rfl, hwalkable, apart, hw⟩ :=
    Disk.written_of_writeDocument hdisk.tree hfree hreach hdir hfile hwrite
  -- the same root is found, as neither name makes one
  have hmarks : Disk.Unmarked RootRule.projectExtensions apart := by
    rcases hw.place with rfl | rfl
    · rw [Disk.Unmarked, List.getLast?_append_of_ne_nil _ (List.cons_ne_nil _ _)]
      decide +kernel
    · rw [Disk.Unmarked, List.getLast?_append_of_ne_nil _ (List.cons_ne_nil _ _)]
      decide +kernel
  have hroot' : disk'.resolveRoot (.markers RootRule.projectExtensions) start = .ok root := by
    rw [Disk.resolveRoot_sameApart hdisk hfree hw.same hw.absent hmarks hstart, hroot]
  -- the document goes to the same file
  obtain ⟨inside', hreach'⟩ := hw.reach_source hfree hreach
  obtain ⟨hagain, hmade⟩ := hw.writeDocument_again hreach' hdir hfile hwalkable
  -- and the same is loaded, as neither name is that of a manifest
  have hnodir : ¬ Name.IsManifest (Utf8.encode "diagrams") := by
    rw [← Manifest.isManifestName_iff]
    decide +kernel
  have hnofile : ¬ Name.IsManifest (Utf8.encode "ClassDiagrams.puml") := by
    rw [← Manifest.isManifestName_iff]
    decide +kernel
  obtain ⟨paths, hmanifests⟩ := Disk.manifests_of_load hload
  have hmanifests' : disk'.manifests root = .ok paths :=
    hw.manifests_eq hdisk.tree hfree hreach hreach' hnodir hnofile hmade hmanifests
  have hload' : disk'.load root = .ok es :=
    hw.load_eq hdisk.tree hfree hreach hreach' hnodir hnofile hmade hload
  have hcwd : disk'.cwdPath = disk.cwdPath := by rw [Disk.cwdPath, Disk.cwdPath, hw.same.cwd]
  refine ⟨?_, hheld, root, paths, hroot, hroot', hmanifests, hmanifests'⟩
  rw [(({} : Generator).generate_of_resolveRoot hroot' .empty).2, generate_of_load _ hload', hcwd]
  exact hagain

/-- A project of one class, with the diagram beside its sources. -/
def projectWithDiagram (diagram : Bytes) : Directory :=
  .directory (Utf8.encode ".git") .empty
    (.directory (Utf8.encode "src")
      (.file (Utf8.encode "a.decl.json") (Utf8.encode Disk.manifestOfClass) .empty)
      (.directory (Utf8.encode "diagrams")
        (.file (Utf8.encode "ClassDiagrams.puml") diagram .empty) .empty))

def diskWithDiagram (diagram : Bytes) : Disk where
  top := .directory (Utf8.encode "game") (projectWithDiagram diagram) .empty
  cwd := [Utf8.encode "game"]

theorem wellFormed_diskWithDiagram : (diskWithDiagram []).WellFormed where
  tree := by decide +kernel
  cwd := ⟨projectWithDiagram [], by decide +kernel⟩

theorem load_diskWithDiagram :
    (diskWithDiagram []).load (.ofString "/game/src/..")
      = .ok [Disk.classOfManifest (.ofString "/game/src/../src/a.decl.json")] := by
  have hsource : (diskWithDiagram []).directory? (.ofString "/game/src/..")
      = some (projectWithDiagram []) := by cbv
  have hinside : (projectWithDiagram []).IsTree := by decide +kernel
  have hplaces : (projectWithDiagram []).Discovers
      [[Utf8.encode "src", Utf8.encode "a.decl.json"]] :=
    hinside.discovers_of_perm (by decide +kernel) (by decide +kernel)
  rw [Disk.load_of_manifestOfClass wellFormed_diskWithDiagram.tree hsource
    (Disk.forall_places_of_all (by cbv)) (Disk.forall_places_of_all (by cbv)) hplaces
    (by decide +kernel)]
  have hpath : (Path.ofString "/game/src/..").below [Utf8.encode "src", Utf8.encode "a.decl.json"]
      = .ofString "/game/src/../src/a.decl.json" := by decide +kernel
  rw [hpath]

def diagramOfProject : String :=
  (Report.ofEntities (diskWithDiagram []).cwdPath {}
    [Disk.classOfManifest (.ofString "/game/src/../src/a.decl.json")]).document

/-- From the directory of an empty diagram, on a way through the sources: the
    first run replaces the diagram, the second leaves it. -/
theorem generateDefault_twice_from_diagrams :
    (diskWithDiagram []).isDirectory (.ofString "src/../diagrams")
      ∧ ({} : Generator).generateDefault (diskWithDiagram []) (.ofString "src/../diagrams")
        = (diskWithDiagram (Utf8.encode diagramOfProject),
          .ok ⟨.ofString "/game/src/../diagrams/ClassDiagrams.puml", diagramOfProject⟩)
      ∧ ({} : Generator).generateDefault (diskWithDiagram (Utf8.encode diagramOfProject))
          (.ofString "src/../diagrams")
        = (diskWithDiagram (Utf8.encode diagramOfProject),
          .ok ⟨.ofString "/game/src/../diagrams/ClassDiagrams.puml", diagramOfProject⟩) := by
  have hstart : (diskWithDiagram []).isDirectory (.ofString "src/../diagrams") := by cbv
  have hroot : (diskWithDiagram []).resolveRoot ({} : Generator).rootRule (.ofString "src/../diagrams")
      = .ok (.ofString "/game/src/..") := by cbv
  have houtput : (Path.ofString "/game/src/..").join (.ofString ({} : Settings).outputDirectory)
      = .ofString "/game/src/../diagrams" := by decide +kernel
  have hmake : (diskWithDiagram []).makeDirectories (.ofString "/game/src/../diagrams")
      = (diskWithDiagram [], .ok ()) := by cbv
  have hpath : (Path.ofString "/game/src/../diagrams").join (.ofString "ClassDiagrams.puml")
      = .ofString "/game/src/../diagrams/ClassDiagrams.puml" := by decide +kernel
  have hfile : ∀ contents, (diskWithDiagram []).writeFile
      (.ofString "/game/src/../diagrams/ClassDiagrams.puml") contents
      = .ok (diskWithDiagram contents) := by
    intro contents
    cbv
  have hfirst : ({} : Generator).generateDefault (diskWithDiagram []) (.ofString "src/../diagrams")
      = (diskWithDiagram (Utf8.encode diagramOfProject),
        .ok ⟨.ofString "/game/src/../diagrams/ClassDiagrams.puml", diagramOfProject⟩) := by
    rw [(({} : Generator).generate_of_resolveRoot hroot .empty).2,
      generate_of_load _ load_diskWithDiagram, houtput]
    show (diskWithDiagram []).writeDocument _ "ClassDiagrams.puml" diagramOfProject = _
    rw [Disk.writeDocument, hmake]
    simp only [hpath, hfile]
  have htwice := generateDefault_twice wellFormed_diskWithDiagram (by decide +kernel) hstart hfirst
  exact ⟨hstart, hfirst, htwice.1⟩

end Generator

end ClassAtlas
