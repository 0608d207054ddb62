import Mathlib
import ClassAtlas.ProjectRoot
import ClassAtlas.Proofs.Disk.Walking

/-! # Where the project root lies

    The project root is looked for along the text of the absolute start.  In a
    tree without links the directory found is one that the steps of the start
    pass through.  A way that turns upwards after it went down passes through
    directories beside the start, so a root found there does not hold the start;
    where every `..` stands in front, all directories passed do.
-/

namespace ClassAtlas

/-! ## Ways that turn upwards first -/

/-- Every `..` of the path stands in front of its other steps. -/
def Path.ClimbsFirst (p : Path) : Prop :=
  ∃ ups downs, p.steps = ups ++ downs ∧ (∀ n ∈ ups, n = Path.up) ∧ Path.up ∉ downs

/-- The top is above itself. -/
theorem Place.follow_ups {ups : List Name} (h : ∀ n ∈ ups, n = Path.up) :
    Place.follow [] ups = [] := by
  induction ups with
  | nil => rfl
  | cons n ups ih =>
    obtain ⟨rfl, hups⟩ := List.forall_mem_cons.1 h
    have hstep : Place.step [] Path.up = [] := by decide
    rw [Place.follow_cons, hstep]
    exact ih hups

/-- On a way that goes down once it has gone up, every directory passed holds the
    last one. -/
theorem Path.ClimbsFirst.follow_isPrefix {p : Path} (h : p.ClimbsFirst) {way : List Name}
    (hway : way <+: p.steps) : Place.follow [] way <+: Place.follow [] p.steps := by
  obtain ⟨ups, downs, hsteps, hups, hdowns⟩ := h
  have hordinary : ∀ n ∈ downs, n ≠ Path.here ∧ n ≠ Path.up := by
    intro n hn
    have hmem : n ∈ p.steps := hsteps ▸ List.mem_append_right ups hn
    exact ⟨(not_isIdle_of_mem_steps hmem).2, fun heq => hdowns (heq ▸ hn)⟩
  -- a first part of the steps is some ups and then some downs
  obtain ⟨k, l, hcut⟩ : ∃ k l, way = ups.take k ++ downs.take l := by
    rw [List.prefix_iff_eq_take, hsteps, List.take_append] at hway
    exact ⟨_, _, hway⟩
  have hpassed : Place.follow [] way = downs.take l := by
    have hups' : ∀ n ∈ ups.take k, n = Path.up := fun n hn => hups n (List.mem_of_mem_take hn)
    have hdowns' : ∀ n ∈ downs.take l, n ≠ Path.here ∧ n ≠ Path.up :=
      fun n hn => hordinary n (List.mem_of_mem_take hn)
    rw [hcut, Place.follow_append, Place.follow_ups hups', Place.follow_of_ordinary _ hdowns',
      List.nil_append]
  have hend : Place.follow [] p.steps = downs := by
    rw [hsteps, Place.follow_append, Place.follow_ups hups, Place.follow_of_ordinary _ hordinary,
      List.nil_append]
  rw [hpassed, hend]
  exact List.take_prefix l downs

namespace Disk

/-! ## What a marker says of its directory -/

theorem walkable_of_join {p rel : Path} (hrel : rel.isAbsolute = false) (hp : p ≠ .empty)
    (h : Walkable (p.join rel)) : Walkable p := by
  obtain ⟨more, hmore⟩ : ∃ more, (p.join rel).bytes = p.bytes ++ more := by
    rw [Path.join, if_neg (by simp [hrel])]
    split
    · exact ⟨rel.bytes, rfl⟩
    · exact ⟨Path.slash :: rel.bytes, rfl⟩
  refine ⟨?_, hp, ?_⟩
  · rw [Bool.eq_false_iff]
    intro hzero
    have hjoin : (p.join rel).bytes.contains 0 := by
      rw [hmore, List.contains_iff_mem]
      exact List.mem_append_left _ (List.contains_iff_mem.1 hzero)
    rw [h.zero] at hjoin
    cases hjoin
  · have hlength := h.length
    rw [hmore, List.length_append] at hlength
    omega

/-- What has a name below it is a directory, with a slash at the end or without. -/
theorem leads_of_join {disk : Disk} {p rel : Path} {e : Entry} (hp : p ≠ .empty)
    (hrel : rel.isAbsolute = false) (hnames : rel.names ≠ []) (h : disk.entry (p.join rel) = .ok e) :
    Walkable p ∧ ∃ place inside, ∀ slash, Leads disk.top .visit linkLimit (origin disk.cwd p) p.names
      slash (.entry place (.directory inside)) := by
  obtain ⟨place, hreach⟩ := entry_eq_ok_iff.1 h
  obtain ⟨hwalkable, hleads⟩ := reach_eq_ok_iff.1 hreach
  rw [Path.names_join _ _ hrel] at hleads
  obtain ⟨links', place', inside, hway, -⟩ := hleads.split hnames
  have horigin : origin disk.cwd p = origin disk.cwd (p.join rel) := by
    rw [origin, origin, Path.isAbsolute_join _ _ hrel]
  rw [horigin]
  exact ⟨walkable_of_join hrel hp hwalkable, place', inside, hway⟩

theorem directory?_of_exists?_join {disk : Disk} {p rel : Path} (hp : p ≠ .empty)
    (hrel : rel.isAbsolute = false) (hnames : rel.names ≠ []) (h : disk.exists? (p.join rel)) :
    ∃ inside, disk.directory? p = some inside := by
  unfold exists? at h
  split at h
  · next e hentry =>
    obtain ⟨hwalkable, place, inside, hway⟩ := leads_of_join hp hrel hnames hentry
    exact ⟨inside, directory?_eq_some_iff.2 ⟨place, reach_eq_ok_iff.2 ⟨hwalkable, hway _⟩⟩⟩
  · cases h

theorem directory?_of_hasMarker {disk : Disk} {p : Path} (hp : p ≠ .empty) (h : disk.hasMarker p) :
    ∃ inside, disk.directory? p = some inside :=
  directory?_of_exists?_join hp (by decide) (by decide) h

theorem directory?_of_hasProjectFile {disk : Disk} {extensions : List String} {p : Path}
    (h : disk.hasProjectFile extensions p) : ∃ inside, disk.directory? p = some inside := by
  unfold hasProjectFile at h
  split at h
  · next inside hinside => exact ⟨inside, hinside⟩
  · cases h

/-- The root that is found stands on the way and is a directory. -/
theorem of_resolveRoot {disk : Disk} (hdisk : disk.WellFormed) {extensions : List String}
    {start root : Path} (h : disk.resolveRoot (.markers extensions) start = .ok root) :
    ∃ a, Path.absolute? disk.cwdPath start = some a ∧ root.isAbsolute ∧ root.steps <+: a.steps
      ∧ ∃ inside, disk.directory? root = some inside := by
  unfold resolveRoot at h
  simp only at h
  split at h
  · cases h
  next a ha =>
  have habsolute : a.isAbsolute := Path.isAbsolute_absolute? ha (isAbsolute_cwdPath hdisk)
  split at h
  · next found hfound =>
    cases h
    obtain ⟨hroot, hsteps⟩ :=
      Path.steps_of_mem_ancestors habsolute (List.mem_of_find?_eq_some hfound)
    have hne : root ≠ .empty := by
      rintro rfl
      cases hroot
    exact ⟨a, ha, hroot, hsteps, directory?_of_hasMarker hne (List.find?_some hfound)⟩
  · split at h
    · next found hfound =>
      cases h
      obtain ⟨hroot, hsteps⟩ :=
        Path.steps_of_mem_ancestors habsolute (List.mem_of_find?_eq_some hfound)
      exact ⟨a, ha, hroot, hsteps, directory?_of_hasProjectFile (List.find?_some hfound)⟩
    · cases h

/-! ## The place of the root -/

/-- Without links, the place of a path is where its names lead. -/
theorem place_of_reach {disk : Disk} (hfree : disk.top.LinkFree) {p : Path} {q : Place} {e : Entry}
    (h : disk.reach .visit p = .ok (.entry q e)) : q = (origin disk.cwd p).follow p.names :=
  ((reach_eq_ok_iff.1 h).2).eq_follow hfree

/-- The absolute form of a path leads where the path does. -/
theorem follow_absolute? {disk : Disk} (hdisk : disk.WellFormed) {p a : Path}
    (h : Path.absolute? disk.cwdPath p = some a) :
    Place.follow [] a.steps = (origin disk.cwd p).follow p.names := by
  have hcwd : Place.follow [] disk.cwd = disk.cwd :=
    Place.follow_of_ordinary [] fun n hn =>
      ⟨(hdisk.isProper_cwd n hn).2.1, (hdisk.isProper_cwd n hn).2.2.1⟩
  rw [Place.follow_steps, Path.names_absolute? h, Place.follow_append, names_cwdPath hdisk, origin,
    Place.follow_steps]
  split
  · rfl
  · rw [hcwd]

/-- In a tree without links, the root found for a directory is the place where a
    first part of the steps of the absolute start leads; if the start turns
    upwards only in front, that place is the start or above it. -/
theorem resolveRoot_on_way {disk : Disk} (hdisk : disk.WellFormed) (hfree : disk.top.LinkFree)
    {extensions : List String} {start root : Path} {q : Place} {inside : Directory}
    (hstart : disk.reach .visit start = .ok (.entry q (.directory inside)))
    (hroot : disk.resolveRoot (.markers extensions) start = .ok root) :
    ∃ a p found, Path.absolute? disk.cwdPath start = some a
      ∧ disk.reach .visit root = .ok (.entry p (.directory found))
      ∧ (∃ way, way <+: a.steps ∧ p = Place.follow [] way)
      ∧ q = Place.follow [] a.steps
      ∧ (a.ClimbsFirst → p <+: q) := by
  obtain ⟨a, ha, habsolute, hsteps, found, hfound⟩ := of_resolveRoot hdisk hroot
  obtain ⟨p, hp⟩ := directory?_eq_some_iff.1 hfound
  have hpplace : p = Place.follow [] root.steps := by
    rw [place_of_reach hfree hp, Place.follow_steps, origin, if_pos habsolute]
  have hqplace : q = Place.follow [] a.steps := by
    rw [follow_absolute? hdisk ha]
    exact place_of_reach hfree hstart
  refine ⟨a, p, found, ha, hp, ⟨root.steps, hsteps, hpplace⟩, hqplace, fun hclimbs => ?_⟩
  rw [hpplace, hqplace]
  exact hclimbs.follow_isPrefix hsteps

/-- A project `work` with a file of its own at `work/App.csproj`, sources in
    `work/src` and a repository of its own in `work/lib`. -/
def projectWithLibrary : Disk where
  top := .directory (Utf8.encode "work")
    (.file (Utf8.encode "App.csproj") []
      (.directory (Utf8.encode "src") (.directory (Utf8.encode "deep") .empty .empty)
        (.directory (Utf8.encode "lib") (.directory (Utf8.encode ".git") .empty .empty) .empty)))
    .empty
  cwd := [Utf8.encode "work", Utf8.encode "lib"]

theorem wellFormed_projectWithLibrary : projectWithLibrary.WellFormed where
  tree := by decide +kernel
  cwd := ⟨.directory (Utf8.encode ".git") .empty .empty, by decide +kernel⟩

/-- A start that turns upwards in front only: its project file is found above it. -/
theorem resolveRoot_on_way_project_file :
    projectWithLibrary.reach .visit (.ofString "/../work/./src//deep/")
        = .ok (.entry [Utf8.encode "work", Utf8.encode "src", Utf8.encode "deep"] (.directory .empty))
      ∧ projectWithLibrary.resolveRoot (.markers ["sln", "csproj"]) (.ofString "/../work/./src//deep/")
        = .ok (.ofString "/../work")
      ∧ ∃ p found,
          projectWithLibrary.reach .visit (.ofString "/../work") = .ok (.entry p (.directory found))
            ∧ p <+: [Utf8.encode "work", Utf8.encode "src", Utf8.encode "deep"] := by
  have hstart : projectWithLibrary.reach .visit (.ofString "/../work/./src//deep/")
      = .ok (.entry [Utf8.encode "work", Utf8.encode "src", Utf8.encode "deep"]
        (.directory .empty)) := by cbv
  have hroot : projectWithLibrary.resolveRoot (.markers ["sln", "csproj"])
      (.ofString "/../work/./src//deep/") = .ok (.ofString "/../work") := by cbv
  obtain ⟨a, p, found, ha, hp, -, -, hprefix⟩ :=
    resolveRoot_on_way wellFormed_projectWithLibrary (by decide +kernel) hstart hroot
  have habsolute : Path.absolute? projectWithLibrary.cwdPath (.ofString "/../work/./src//deep/")
      = some (.ofString "/../work/src/deep/") := by cbv
  cases ha.symm.trans habsolute
  refine ⟨hstart, hroot, p, found, hp, hprefix ?_⟩
  exact ⟨[Path.up], [Utf8.encode "work", Utf8.encode "src", Utf8.encode "deep"], by decide +kernel,
    by decide +kernel, by decide +kernel⟩

/-- The root that is found need not hold the start: from `/work/lib/../src` the
    repository in `/work/lib` is found, though it stands beside the start. -/
theorem not_forall_resolveRoot_holds_start :
    ¬ ∀ (disk : Disk) (extensions : List String) (start root : Path) (q : Place) (inside : Directory),
        disk.WellFormed → disk.top.LinkFree →
        disk.reach .visit start = .ok (.entry q (.directory inside)) →
        disk.resolveRoot (.markers extensions) start = .ok root →
        ∃ p found, disk.reach .visit root = .ok (.entry p (.directory found)) ∧ p <+: q := by
  intro h
  have hstart : projectWithLibrary.reach .visit (.ofString "/work/lib/../src")
      = .ok (.entry [Utf8.encode "work", Utf8.encode "src"]
        (.directory (.directory (Utf8.encode "deep") .empty .empty))) := by cbv
  have hroot : projectWithLibrary.resolveRoot (.markers ["sln", "csproj"])
      (.ofString "/work/lib/../src") = .ok (.ofString "/work/lib") := by cbv
  have hfound : projectWithLibrary.reach .visit (.ofString "/work/lib")
      = .ok (.entry [Utf8.encode "work", Utf8.encode "lib"]
        (.directory (.directory (Utf8.encode ".git") .empty .empty))) := by cbv
  obtain ⟨p, found, hp, hprefix⟩ := h _ _ _ _ _ _ wellFormed_projectWithLibrary
    (by decide +kernel) hstart hroot
  cases hfound.symm.trans hp
  revert hprefix
  decide +kernel

end Disk

end ClassAtlas
