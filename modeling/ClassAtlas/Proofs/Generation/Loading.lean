import Mathlib
import ClassAtlas.Generation
import ClassAtlas.Proofs.Manifest.Formats
import ClassAtlas.Proofs.Manifest.Printing
import ClassAtlas.Proofs.Manifest.Searching

/-! # Loading

    Loading a source directory gives the entities of all its manifests, or the
    error of the first that is at fault; `Disk.LoadsAs` says which, by the tree
    alone.  A run that cannot load, or cannot find the project root, ends with that
    error and leaves the disk as it was.
-/

namespace ClassAtlas

/-! ## One after the other -/

section

variable {α β ε : Type} {f : α → Except ε β}

theorem mapM_cons_of_ok {x : α} {y : β} (h : f x = .ok y) (xs : List α) :
    (x :: xs).mapM f = (xs.mapM f).map (y :: ·) := by
  rw [List.mapM_cons, h]
  cases xs.mapM f <;> rfl

/-- The same is done to each. -/
theorem mapM_congr_of_mem {g : α → Except ε β} {xs : List α} (h : ∀ x ∈ xs, f x = g x) :
    xs.mapM f = xs.mapM g := by
  induction xs with
  | nil => rfl
  | cons x xs ih =>
    obtain ⟨hx, hxs⟩ := List.forall_mem_cons.1 h
    rw [List.mapM_cons, List.mapM_cons, hx, ih hxs]

/-- All succeed. -/
theorem mapM_eq_ok_of_forall₂ {xs : List α} {ys : List β}
    (h : List.Forall₂ (fun x y => f x = .ok y) xs ys) : xs.mapM f = .ok ys := by
  induction h with
  | nil => rfl
  | cons hx _ ih =>
    rw [mapM_cons_of_ok hx, ih]
    rfl

/-- The first that fails keeps the others from being looked at. -/
theorem mapM_eq_error_of_first {before : List α} {x : α} {e : ε}
    (hbefore : ∀ y ∈ before, ∃ z, f y = .ok z) (hx : f x = .error e) (after : List α) :
    (before ++ x :: after).mapM f = .error e := by
  induction before with
  | nil =>
    rw [List.nil_append, List.mapM_cons, hx]
    rfl
  | cons y before ih =>
    obtain ⟨⟨z, hz⟩, hbefore⟩ := List.forall_mem_cons.1 hbefore
    rw [List.cons_append, mapM_cons_of_ok hz, ih hbefore]
    rfl

/-- Where each is good or bad, all are good or there is a first that is bad. -/
theorem forall₂_or_first {γ : Type} {Good : α → β → Prop} {Bad : α → γ → Prop} {xs : List α}
    (h : ∀ x ∈ xs, (∃ y, Good x y) ∨ ∃ z, Bad x z) :
    (∃ ys, List.Forall₂ Good xs ys)
      ∨ ∃ before x after z, xs = before ++ x :: after
        ∧ (∀ w ∈ before, ∃ y, Good w y) ∧ Bad x z := by
  induction xs with
  | nil => exact .inl ⟨[], .nil⟩
  | cons x xs ih =>
    obtain ⟨hx, hxs⟩ := List.forall_mem_cons.1 h
    rcases hx with ⟨y, hy⟩ | ⟨z, hz⟩
    · rcases ih hxs with ⟨ys, hys⟩ | ⟨before, x', after, z, rfl, hbefore, hx'⟩
      · exact .inl ⟨y :: ys, .cons hy hys⟩
      · exact .inr ⟨x :: before, x', after, z, rfl, List.forall_mem_cons.2 ⟨⟨y, hy⟩, hbefore⟩, hx'⟩
    · exact .inr ⟨[], x, xs, z, rfl, List.forall_mem_nil _, hz⟩

end

/-! ## One manifest -/

theorem Manifest.load_eq_ok_iff {path : Path} {text : String} {es : List Entity} :
    load path text = .ok es ↔ parse path text = .ok es := by
  unfold load
  cases parse path text with
  | ok es' => simp
  | error fault => simp

/-- The file at the place is a text, and a manifest of these entities. -/
def Directory.HasEntities (inside : Directory) (source : Path) (place : Place)
    (es : List Entity) : Prop :=
  ∃ text, inside.at? place = some (.file (Utf8.encode text))
    ∧ Manifest.parse (source.below place) text = .ok es

/-- What is wrong with the file at the place, in words. -/
inductive Directory.HasFault (inside : Directory) (source : Path) (place : Place) :
    String → Prop where
  | noText {contents : Bytes} (hfile : inside.at? place = some (.file contents))
      (h : ¬ ∃ text, Utf8.encode text = contents) :
      HasFault inside source place "stream did not contain valid UTF-8"
  | noManifest {text : String} {fault : Manifest.Fault}
      (hfile : inside.at? place = some (.file (Utf8.encode text)))
      (h : Manifest.parse (source.below place) text = .error fault) :
      HasFault inside source place (fault.message text)

theorem Directory.hasEntities_or_hasFault {inside : Directory} (source : Path) {place : Place}
    {contents : Bytes} (hfile : inside.at? place = some (.file contents)) :
    (∃ es, inside.HasEntities source place es) ∨ ∃ reason, inside.HasFault source place reason := by
  by_cases htext : ∃ text, Utf8.encode text = contents
  · obtain ⟨text, rfl⟩ := htext
    cases hparse : Manifest.parse (source.below place) text with
    | ok es => exact .inl ⟨es, text, hfile, hparse⟩
    | error fault => exact .inr ⟨_, .noManifest hfile hparse⟩
  · exact .inr ⟨_, .noText hfile htext⟩

namespace Disk

section

variable {disk : Disk} {source : Path} {inside : Directory} (htree : inside.IsTree)
  (hsource : disk.directory? source = some inside) (hreads : disk.ReadsBelow source inside)
  {place : Place}

include htree hsource hreads

theorem loadManifest_below {contents : Bytes} (hfile : inside.at? place = some (.file contents)) :
    disk.loadManifest (source.below place) = Manifest.loadFile (source.below place) contents := by
  rw [loadManifest, hreads.read_eq htree hsource hfile]

theorem loadManifest_of_hasEntities {es : List Entity} (h : inside.HasEntities source place es) :
    disk.loadManifest (source.below place) = .ok es := by
  obtain ⟨text, hfile, hparse⟩ := h
  have htext : Utf8.decode? (Utf8.encode text) = some text := Utf8.decode?_eq_some_iff.2 rfl
  rw [loadManifest_below htree hsource hreads hfile, Manifest.loadFile, htext]
  exact Manifest.load_eq_ok_iff.2 hparse

theorem loadManifest_of_hasFault {reason : String} (h : inside.HasFault source place reason) :
    disk.loadManifest (source.below place)
      = .error (.declarationSource (source.below place) reason) := by
  cases h with
  | @noText contents hfile htext =>
    have hnone : Utf8.decode? contents = none := by
      rw [← Option.not_isSome_iff_eq_none, Utf8.isSome_decode?_iff]
      exact htext
    rw [loadManifest_below htree hsource hreads hfile, Manifest.loadFile, hnone]
  | @noManifest text fault hfile hparse =>
    have htext : Utf8.decode? (Utf8.encode text) = some text := Utf8.decode?_eq_some_iff.2 rfl
    rw [loadManifest_below htree hsource hreads hfile, Manifest.loadFile, htext]
    show Manifest.load (source.below place) text = _
    rw [Manifest.load, hparse]

end

/-! ## A source directory -/

/-- What loading a source directory comes to. -/
inductive LoadsAs (disk : Disk) (source : Path) : Except GenerationError (List Entity) → Prop where
  /-- All manifests are in order: their entities, manifest by manifest. -/
  | loaded {inside : Directory} {places : List Place} {parts : List (List Entity)}
      (hsource : disk.directory? source = some inside) (hplaces : inside.Discovers places)
      (hparts : List.Forall₂ (inside.HasEntities source) places parts) :
      LoadsAs disk source (.ok parts.flatten)
  /-- There is no such directory. -/
  | noDirectory (hsource : disk.directory? source = none) :
      LoadsAs disk source (.error (.declarationSource source "source directory does not exist"))
  /-- The first manifest at fault, whatever comes after it. -/
  | atFault {inside : Directory} {before after : List Place} {place : Place} {reason : String}
      (hsource : disk.directory? source = some inside)
      (hplaces : inside.Discovers (before ++ place :: after))
      (hbefore : ∀ p ∈ before, ∃ es, inside.HasEntities source p es)
      (hplace : inside.HasFault source place reason) :
      LoadsAs disk source (.error (.declarationSource (source.below place) reason))

/-- Every entry below the source directory can be opened by its path. -/
def Readable (disk : Disk) (source : Path) : Prop :=
  ∀ inside, disk.directory? source = some inside →
    disk.ListsBelow source inside ∧ disk.ReadsBelow source inside

section

variable {disk : Disk} {source : Path}

/-- Sources are loaded only if their manifests are found. -/
theorem manifests_of_load {es : List Entity} (h : disk.load source = .ok es) :
    ∃ paths, disk.manifests source = .ok paths := by
  cases hmanifests : disk.manifests source with
  | error e =>
    rw [load, hmanifests] at h
    cases h
  | ok paths => exact ⟨paths, rfl⟩

theorem load_eq {inside : Directory} {places : List Place} (htree : inside.IsTree)
    (hsource : disk.directory? source = some inside) (hlists : disk.ListsBelow source inside)
    (hplaces : inside.Discovers places) :
    disk.load source
      = (places.mapM fun place => disk.loadManifest (source.below place)).map List.flatten := by
  rw [load, manifests_eq htree hsource hlists hplaces]
  show ((places.map source.below).mapM disk.loadManifest >>= fun parts => pure parts.flatten) = _
  rw [List.mapM_map]
  -- manifests are loaded by their paths; from here on by their places
  show (places.mapM (fun place => disk.loadManifest (source.below place)) >>= _) = _
  cases places.mapM (fun place => disk.loadManifest (source.below place)) with
  | error e => rfl
  | ok parts => rfl

theorem LoadsAs.load_eq (htree : disk.top.IsTree) (hreadable : disk.Readable source)
    {result : Except GenerationError (List Entity)} (h : disk.LoadsAs source result) :
    disk.load source = result := by
  cases h with
  | @loaded inside places parts hsource hplaces hparts =>
    have hinside : inside.IsTree := isTree_of_directory? htree hsource
    obtain ⟨hlists, hreads⟩ := hreadable inside hsource
    have hmap := mapM_eq_ok_of_forall₂ (hparts.imp fun _ _ =>
      loadManifest_of_hasEntities hinside hsource hreads)
    rw [Disk.load_eq hinside hsource hlists hplaces, hmap]
    rfl
  | noDirectory hsource =>
    rw [load, manifests, hsource]
    rfl
  | @atFault inside before after place reason hsource hplaces hbefore hplace =>
    have hinside : inside.IsTree := isTree_of_directory? htree hsource
    obtain ⟨hlists, hreads⟩ := hreadable inside hsource
    have hmap := mapM_eq_error_of_first
      (f := fun place => disk.loadManifest (source.below place))
      (fun p hp => by
        obtain ⟨es, hes⟩ := hbefore p hp
        exact ⟨es, loadManifest_of_hasEntities hinside hsource hreads hes⟩)
      (loadManifest_of_hasFault hinside hsource hreads hplace) after
    rw [Disk.load_eq hinside hsource hlists hplaces, hmap]
    rfl

/-- Every source directory loads in one of the ways. -/
theorem exists_loadsAs (htree : disk.top.IsTree) (source : Path) :
    ∃ result, disk.LoadsAs source result := by
  cases hsource : disk.directory? source with
  | none => exact ⟨_, .noDirectory hsource⟩
  | some inside =>
    have hplaces := (isTree_of_directory? htree hsource).discovers
    -- each manifest is in order or at fault, so one of them is the first at fault or none is
    have hkind : ∀ place ∈ manifestPlaces inside.discoveries,
        (∃ es, inside.HasEntities source place es)
          ∨ ∃ reason, inside.HasFault source place reason := by
      intro place hmem
      obtain ⟨contents, hfile⟩ := ((hplaces.mem_iff place).1 hmem).file
      exact Directory.hasEntities_or_hasFault source hfile
    rcases forall₂_or_first hkind with ⟨parts, hparts⟩ | ⟨before, place, after, reason, heq, hfirst⟩
    · exact ⟨_, .loaded hsource hplaces hparts⟩
    · rw [heq] at hplaces
      exact ⟨_, .atFault hsource hplaces hfirst.1 hfirst.2⟩

theorem load_eq_iff_loadsAs (htree : disk.top.IsTree) (hreadable : disk.Readable source)
    {result : Except GenerationError (List Entity)} :
    disk.load source = result ↔ disk.LoadsAs source result := by
  constructor
  · -- some result is specified, and that is the one that loading has
    rintro rfl
    obtain ⟨result, hresult⟩ := exists_loadsAs htree source
    rw [hresult.load_eq htree hreadable]
    exact hresult
  · exact fun h => h.load_eq htree hreadable

end

end Disk

/-! ## From loading to a run -/

namespace Generator

variable {disk : Disk} {e : GenerationError}

theorem inspect_eq_ok_iff {g : Generator} {source : Path} {report : Report} :
    g.inspect disk source = .ok report
      ↔ ∃ es, disk.load source = .ok es
        ∧ Report.ofEntities disk.cwdPath g.settings.types es = report := by
  unfold inspect
  cases disk.load source with
  | error e => simp [bind, Except.bind]
  | ok es => simp [bind, Except.bind, pure, Except.pure]

theorem generate_of_load_error (g : Generator) {source : Path} (h : disk.load source = .error e)
    (output : Path) : g.generate disk source output = (disk, .error e) := by
  have hinspect : g.inspect disk source = .error e := by
    rw [inspect, h]
    rfl
  rw [generate, hinspect]

theorem generate_of_load (g : Generator) {source : Path} {es : List Entity}
    (h : disk.load source = .ok es) (output : Path) :
    g.generate disk source output
      = g.deliver disk output (Report.ofEntities disk.cwdPath g.settings.types es).document := by
  rw [generate, inspect_eq_ok_iff.2 ⟨es, h, rfl⟩]

theorem generate_of_resolveRoot_error {g : Generator} {start : Path}
    (h : disk.resolveRoot g.rootRule start = .error e) (output : Path) :
    g.generateInto disk start output = (disk, .error e)
      ∧ g.generateDefault disk start = (disk, .error e) := by
  have hlocations : ∀ output?, g.locations disk start none output? = .error e := by
    intro output?
    rw [locations, h]
    · rfl
    · rintro _ _ ⟨⟩
  rw [generateInto, generateDefault, hlocations, hlocations]
  exact ⟨rfl, rfl⟩

/-- The source of a run that starts at `start` is the project root. -/
theorem generate_of_resolveRoot {g : Generator} {start root : Path}
    (h : disk.resolveRoot g.rootRule start = .ok root) (output : Path) :
    g.generateInto disk start output = g.generate disk root output
      ∧ g.generateDefault disk start
        = g.generate disk root (root.join (.ofString g.settings.outputDirectory)) := by
  have hlocations : ∀ output?, g.locations disk start none output?
      = .ok { source := root,
              output := output?.getD (root.join (.ofString g.settings.outputDirectory)) } := by
    intro output?
    rw [locations, h]
    · rfl
    · rintro _ _ ⟨⟩
  rw [generateInto, generateDefault, hlocations, hlocations]
  exact ⟨rfl, rfl⟩

end Generator

namespace Disk

/-- Loading is all or nothing, and a run that does not load changes nothing: the
    error that loading or the search for the project root ends with is that of the
    whole run, and the disk stays the same. -/
theorem load_all_or_nothing {disk : Disk} (htree : disk.top.IsTree) :
    (∀ source, disk.Readable source → ∀ result,
        disk.load source = result ↔ disk.LoadsAs source result)
      ∧ ∀ (g : Generator) (start source output : Path) (e : GenerationError),
        (disk.load source = .error e → g.generate disk source output = (disk, .error e))
        ∧ (disk.resolveRoot g.rootRule start = .error e
            ∨ disk.resolveRoot g.rootRule start = .ok source ∧ disk.load source = .error e →
          g.generateInto disk start output = (disk, .error e)
            ∧ g.generateDefault disk start = (disk, .error e)) := by
  refine ⟨fun source hreadable result => load_eq_iff_loadsAs htree hreadable, ?_⟩
  intro g start source output e
  refine ⟨fun h => g.generate_of_load_error h output, ?_⟩
  rintro (hroot | ⟨hroot, hload⟩)
  · exact g.generate_of_resolveRoot_error hroot output
  · rw [(g.generate_of_resolveRoot hroot output).1, (g.generate_of_resolveRoot hroot output).2]
    exact ⟨g.generate_of_load_error hload output, g.generate_of_load_error hload _⟩

/-- Sources with one manifest in order and then two at fault, listed the other way
    round, and with the document of an earlier run. -/
def sourcesAtFault (first : Bytes) : Directory :=
  .directory (Utf8.encode ".git") .empty
    (.directory (Utf8.encode "diagrams") (.file (Utf8.encode "ClassDiagrams.puml") [0x40] .empty)
      (.file (Utf8.encode "c.decl.json") [0xFF]
        (.file (Utf8.encode "b.decl.json") (Utf8.encode "\x7b\x7d")
          (.file (Utf8.encode "a.decl.json") first .empty))))

def diskWithFirst (first : Bytes) : Disk where
  top := .directory (Utf8.encode "game") (sourcesAtFault first) .empty

/-- A manifest of one class. -/
def manifestOfClass : String :=
  Manifest.Style.compact.print <| .object
    [("source", .text "a.cs"),
     ("declarations", .list [.object [("kind", .text "class"), ("name", .text "A")]])]

def diskAtFault : Disk := diskWithFirst (Utf8.encode manifestOfClass)

/-- The class, if the manifest stands at a path. -/
def classOfManifest (path : Path) : Entity :=
  { kind := .classType, name := "A", source := Manifest.sourcePath path "a.cs" }

theorem load_manifestOfClass (path : Path) :
    Manifest.load path manifestOfClass = .ok [classOfManifest path] := by
  have hdecode : Manifest.decode (.object
      [("source", .text "a.cs"),
       ("declarations", .list [.object [("kind", .text "class"), ("name", .text "A")]])])
      = some ⟨"a.cs", [{ kind := .classType, name := "A" }]⟩ := rfl
  rw [manifestOfClass, Manifest.load_of_decode (Manifest.Style.compact.spelledAs_print _) hdecode]
  rfl

theorem hasEntities_manifestOfClass {inside : Directory} {place : Place}
    (hfile : inside.at? place = some (.file (Utf8.encode manifestOfClass))) (source : Path) :
    inside.HasEntities source place [classOfManifest (source.below place)] :=
  ⟨manifestOfClass, hfile, Manifest.load_eq_ok_iff.1 (load_manifestOfClass _)⟩

/-- A source directory with one manifest only. -/
theorem load_of_single {disk : Disk} (htree : disk.top.IsTree) {source : Path}
    {inside : Directory} (hsource : disk.directory? source = some inside)
    (hlists : disk.ListsBelow source inside) (hreads : disk.ReadsBelow source inside) {place : Place}
    (hplaces : inside.Discovers [place]) {text : String} {es : List Entity}
    (hfile : inside.at? place = some (.file (Utf8.encode text)))
    (hload : Manifest.load (source.below place) text = .ok es) :
    disk.load source = .ok es := by
  have hreadable : disk.Readable source := by
    intro inside' hinside'
    cases hsource.symm.trans hinside'
    exact ⟨hlists, hreads⟩
  have hentities : inside.HasEntities source place es :=
    ⟨text, hfile, Manifest.load_eq_ok_iff.1 hload⟩
  rw [load_eq_iff_loadsAs htree hreadable, ← List.append_nil es]
  exact .loaded hsource hplaces (.cons hentities .nil)

theorem load_of_manifestOfClass {disk : Disk} (htree : disk.top.IsTree) {source : Path}
    {inside : Directory} (hsource : disk.directory? source = some inside)
    (hlists : disk.ListsBelow source inside) (hreads : disk.ReadsBelow source inside) {place : Place}
    (hplaces : inside.Discovers [place])
    (hfile : inside.at? place = some (.file (Utf8.encode manifestOfClass))) :
    disk.load source = .ok [classOfManifest (source.below place)] :=
  load_of_single htree hsource hlists hreads hplaces hfile (load_manifestOfClass _)

/-- What is in the first manifest does not matter for where things are. -/
theorem directory?_diskWithFirst (first : Bytes) :
    (diskWithFirst first).directory? (.ofString "/game") = some (sourcesAtFault first) := by
  cbv

theorem readable_diskWithFirst (first : Bytes) :
    (diskWithFirst first).Readable (.ofString "/game") := by
  intro inside hinside
  cases (directory?_diskWithFirst first).symm.trans hinside
  constructor
  · apply forall_places_of_all
    cbv
  · apply forall_places_of_all
    cbv

/-- What is wrong with the second manifest. -/
def secondFault : GenerationError :=
  .declarationSource (.ofString "/game/b.decl.json")
    (Manifest.Fault.message ⟨.missingField "source", 2⟩ "\x7b\x7d")

theorem load_all_or_nothing_second_at_fault :
    diskAtFault.top.IsTree
      ∧ diskAtFault.Readable (.ofString "/game")
      ∧ diskAtFault.load (.ofString "/game") = .error secondFault
      ∧ ({} : Generator).generate diskAtFault (.ofString "/game") (.ofString "/new")
        = (diskAtFault, .error secondFault)
      ∧ ({} : Generator).generateDefault diskAtFault (.ofString "/game/diagrams")
        = (diskAtFault, .error secondFault) := by
  have hroot : ∀ first, (diskWithFirst first).resolveRoot ({} : Generator).rootRule
      (.ofString "/game/diagrams") = .ok (.ofString "/game") := by
    intro first
    cbv
  have htree : diskAtFault.top.IsTree := by decide +kernel
  have hplaces : (sourcesAtFault (Utf8.encode manifestOfClass)).Discovers
      ([[Utf8.encode "a.decl.json"]]
        ++ [Utf8.encode "b.decl.json"] :: [[Utf8.encode "c.decl.json"]]) := by
    have hinside : (sourcesAtFault (Utf8.encode manifestOfClass)).IsTree := by decide +kernel
    exact hinside.discovers_of_perm (by decide +kernel) (by decide +kernel)
  have hfirst : ∀ p ∈ [[Utf8.encode "a.decl.json"]], ∃ es,
      (sourcesAtFault (Utf8.encode manifestOfClass)).HasEntities (.ofString "/game") p es := by
    intro p hp
    rw [List.mem_singleton.1 hp]
    exact ⟨_, hasEntities_manifestOfClass (by decide +kernel) _⟩
  have hsecond : (sourcesAtFault (Utf8.encode manifestOfClass)).HasFault (.ofString "/game")
      [Utf8.encode "b.decl.json"] (Manifest.Fault.message ⟨.missingField "source", 2⟩ "\x7b\x7d") :=
    .noManifest (by decide +kernel) (by cbv)
  have hpath : (Path.ofString "/game").below [Utf8.encode "b.decl.json"]
      = .ofString "/game/b.decl.json" := by decide +kernel
  obtain ⟨hload, hruns⟩ := load_all_or_nothing htree
  have hreadable := readable_diskWithFirst (Utf8.encode manifestOfClass)
  have hfailed : diskAtFault.load (.ofString "/game") = .error secondFault := by
    rw [hload _ hreadable, secondFault, ← hpath]
    exact .atFault (directory?_diskWithFirst _) hplaces hfirst hsecond
  obtain ⟨hgenerate, hfrom⟩ :=
    hruns {} (.ofString "/game/diagrams") (.ofString "/game") (.ofString "/new") secondFault
  exact ⟨htree, hreadable, hfailed, hgenerate hfailed, (hfrom (.inr ⟨hroot _, hfailed⟩)).2⟩

end Disk

end ClassAtlas
