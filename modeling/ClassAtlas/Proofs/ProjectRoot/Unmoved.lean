import Mathlib.Data.List.Find
import Mathlib.Data.List.Infix
import ClassAtlas.Proofs.Disk.Child
import ClassAtlas.Proofs.ProjectRoot.Containment

/-! # Changes that do not move the project root

    The root of a project depends on the markers and project files of the
    directories that the start passes through.  A change at a place with another
    name, below directories that are there already, is seen by none of the looks
    at them; so the same root is found before and after it.
-/

namespace ClassAtlas

/-! ## Where an absolute path passes -/

namespace Disk

/-- A start that is a directory, made absolute, passes directories only. -/
theorem directory_on_steps {disk : Disk} (hdisk : disk.WellFormed) (hfree : disk.top.LinkFree)
    {start a : Path} (hstart : disk.isDirectory start)
    (ha : Path.absolute? disk.cwdPath start = some a) {way : List Name} (hway : way <+: a.steps) :
    ∃ d, disk.top.at? (Place.follow [] way) = some (.directory d) := by
  obtain ⟨inside, hinside⟩ := Option.isSome_iff_exists.1 hstart
  obtain ⟨place, hreach⟩ := directory?_eq_some_iff.1 hinside
  obtain ⟨-, hleads⟩ := reach_eq_ok_iff.1 hreach
  have hproper : ∀ n ∈ origin disk.cwd start, n ≠ Path.here ∧ n ≠ Path.up := by
    intro n hn
    unfold origin at hn
    split at hn
    · cases hn
    · exact ⟨(hdisk.isProper_cwd n hn).2.1, (hdisk.isProper_cwd n hn).2.2.1⟩
  have hsteps : a.steps = origin disk.cwd start ++ start.steps := by
    have hbase : (origin disk.cwd start).filter (· ≠ Path.here) = origin disk.cwd start :=
      List.filter_eq_self.2 fun n hn => decide_eq_true (hproper n hn).1
    have hnames : a.names = origin disk.cwd start ++ start.steps := by
      rw [Path.names_absolute? ha, names_cwdPath hdisk, origin]
    rw [Path.steps_eq_filter_names, hnames, List.filter_append, hbase,
      Path.steps_eq_filter_names, List.filter_filter]
    simp
  rw [hsteps] at hway
  rcases isPrefix_append_cases hway with hbase | ⟨more, hmore, rfl⟩
  · -- still on the way to the current directory
    obtain ⟨d, hd⟩ := hleads.directory_on_way hfree List.nil_prefix
    rw [Place.follow_of_ordinary [] fun n hn => hproper n (hbase.subset hn), List.nil_append]
    exact exists_directory_of_isPrefix hd hbase
  · -- past the current directory the steps are those of the start
    rw [Path.steps_eq_filter_names, List.prefix_filter_iff] at hmore
    obtain ⟨names, hnames, rfl⟩ := hmore
    obtain ⟨d, hd⟩ := hleads.directory_on_way hfree hnames
    refine ⟨d, ?_⟩
    rw [Place.follow_append, Place.follow_filter_here, Place.follow_of_ordinary [] hproper,
      List.nil_append]
    exact hd

/-! ## Looks at directories on the way -/

/-- The directories that the names of an absolute path pass are there. -/
def Passes (disk : Disk) (p : Path) : Prop :=
  p.isAbsolute ∧ ∀ way, way <+: p.names → ∃ d, disk.top.at? (Place.follow [] way) = some (.directory d)

theorem passes_of_mem_ancestors {disk : Disk} (hdisk : disk.WellFormed) (hfree : disk.top.LinkFree)
    {start a p : Path} (hstart : disk.isDirectory start)
    (ha : Path.absolute? disk.cwdPath start = some a) (hp : p ∈ a.ancestors) : disk.Passes p := by
  have habsolute : a.isAbsolute := Path.isAbsolute_absolute? ha (isAbsolute_cwdPath hdisk)
  obtain ⟨hroot, hsteps⟩ := Path.steps_of_mem_ancestors habsolute hp
  refine ⟨hroot, ?_⟩
  intro way hway
  have hpassed : way.filter (· ≠ Path.here) <+: a.steps := by
    rw [Path.steps_eq_filter_names] at hsteps
    exact (hway.filter _).trans hsteps
  obtain ⟨d, hd⟩ := directory_on_steps hdisk hfree hstart ha hpassed
  rw [Place.follow_filter_here] at hd
  exact ⟨d, hd⟩

section

variable {disk disk' : Disk} {apart : Place} {p : Path}

/-- A directory on the way is apart from a place where there is none. -/
theorem Passes.avoids (h : disk.Passes p)
    (hapart : ∀ inside, disk.top.at? apart ≠ some (.directory inside)) : disk.Avoids apart p := by
  intro way hway hprefix
  rw [origin, if_pos h.1] at hprefix
  obtain ⟨d, hd⟩ := h.2 way hway
  obtain ⟨d', hd'⟩ := exists_directory_of_isPrefix hd hprefix
  exact hapart d' hd'

/-- So is every entry of it whose name is not that of the place. -/
theorem Passes.avoids_child (h : disk.Passes p)
    (hapart : ∀ inside, disk.top.at? apart ≠ some (.directory inside)) {n : Name}
    (hn : n.IsProper) (hlast : n ∉ apart.getLast?) : disk.Avoids apart (p.child n) := by
  have hproper : ∀ m ∈ [n], Name.IsProper m := fun m hm => List.mem_singleton.1 hm ▸ hn
  refine (h.avoids hapart).below hproper ?_
  rw [List.prefix_concat_iff]
  rintro (rfl | hprefix)
  · exact hlast (by simp)
  · exact h.avoids hapart p.names List.prefix_rfl hprefix

/-- The last name of the place makes no directory a project root. -/
def Unmarked (extensions : List String) (apart : Place) : Prop :=
  Utf8.encode ".git" ∉ apart.getLast? ∧ ∀ n ∈ apart.getLast?, hasExtension extensions n = false

variable {extensions : List String} (hdisk : disk.WellFormed) (hfree : disk.top.LinkFree)
  (h : SameApart apart disk disk')
  (hapart : ∀ inside, disk.top.at? apart ≠ some (.directory inside))
  (hmarks : Unmarked extensions apart)

include hfree h hapart hmarks

theorem hasMarker_sameApart (hp : disk.Passes p) : disk'.hasMarker p = disk.hasMarker p := by
  have haway : disk.Avoids apart (p.child (Utf8.encode ".git")) :=
    hp.avoids_child hapart (by decide +kernel) hmarks.1
  exact exists?_sameApart hfree h haway

include hdisk

theorem hasProjectFile_sameApart (hp : disk.Passes p) :
    disk'.hasProjectFile extensions p = disk.hasProjectFile extensions p := by
  have haway := hp.avoids hapart
  cases hold : disk.directory? p with
  | none =>
    have hnew := isDirectory_sameApart hfree h haway
    unfold isDirectory at hnew
    rw [hold, Option.isSome_none, Option.isSome_eq_false_iff, Option.isNone_iff_eq_none] at hnew
    rw [hasProjectFile, hasProjectFile, hold, hnew]
  | some inside =>
    obtain ⟨place, hreach⟩ := directory?_eq_some_iff.1 hold
    obtain ⟨inside', hreach'⟩ := reach_directory_sameApart hfree h haway hreach
    have hnew : disk'.directory? p = some inside' := directory?_eq_some_iff.2 ⟨place, hreach'⟩
    have hat := at?_of_reach hreach
    have htree : inside.IsTree := isTree_of_reach hdisk.tree hreach
    have hlast : ∀ {n}, hasExtension extensions n → n ∉ apart.getLast? := by
      intro n hn hmem
      rw [hmarks.2 n hmem] at hn
      cases hn
    -- both directories have the same names with one of the extensions
    have hnames : ∀ {n}, hasExtension extensions n → (n ∈ inside'.names ↔ n ∈ inside.names) := by
      intro n hn
      refine h.top.mem_names_iff hat (at?_of_reach hreach') ?_
      rw [List.prefix_concat_iff]
      rintro (rfl | hprefix)
      · exact hlast hn (by simp)
      · obtain ⟨d, hd⟩ := exists_directory_of_isPrefix hat hprefix
        exact hapart d hd
    have hfile : ∀ {n}, hasExtension extensions n → n ∈ inside.names →
        disk'.isFile (p.child n) = disk.isFile (p.child n) := by
      intro n hn hmem
      obtain ⟨e, he⟩ := Directory.mem_names_iff_exists_find?.1 hmem
      exact isFile_sameApart hfree h (hp.avoids_child hapart (htree.find? he).1 (hlast hn))
    have hany : ∀ (d : Directory) (test : Name → Bool),
        (d.entries.any fun e => hasExtension extensions e.1 && test e.1)
          ↔ ∃ n ∈ d.names, hasExtension extensions n ∧ test n := by
      intro d test
      simp [Directory.names]
    rw [hasProjectFile, hasProjectFile, hold, hnew, Bool.eq_iff_iff,
      hany inside' fun n => disk'.isFile (p.child n), hany inside fun n => disk.isFile (p.child n)]
    constructor
    · rintro ⟨n, hmem, hn, htest⟩
      have hmem' := (hnames hn).1 hmem
      exact ⟨n, hmem', hn, (hfile hn hmem').symm.trans htest⟩
    · rintro ⟨n, hmem, hn, htest⟩
      exact ⟨n, (hnames hn).2 hmem, hn, (hfile hn hmem).trans htest⟩

/-- The same root is found for a start that is a directory. -/
theorem resolveRoot_sameApart {start : Path} (hstart : disk.isDirectory start) :
    disk'.resolveRoot (.markers extensions) start = disk.resolveRoot (.markers extensions) start := by
  have hcwd : disk'.cwdPath = disk.cwdPath := by rw [cwdPath, cwdPath, h.cwd]
  unfold resolveRoot
  simp only
  rw [hcwd]
  cases ha : Path.absolute? disk.cwdPath start with
  | none => rfl
  | some a =>
    have hpasses : ∀ p ∈ a.ancestors, disk.Passes p := fun p hp =>
      passes_of_mem_ancestors hdisk hfree hstart ha hp
    have hmarked : disk'.findMarked a = disk.findMarked a :=
      List.find?_congr fun p hp => hasMarker_sameApart hfree h hapart hmarks (hpasses p hp)
    have hproject : disk'.findProject extensions a = disk.findProject extensions a :=
      List.find?_congr fun p hp =>
        hasProjectFile_sameApart hdisk hfree h hapart hmarks (hpasses p hp)
    simp only [hmarked, hproject]

end

end Disk

end ClassAtlas
