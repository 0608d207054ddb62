import Mathlib
import ClassAtlas.Proofs.Disk.Growing
import ClassAtlas.Proofs.Path.Climbing

/-! # Documents that replace files

    A document that is written is all that its file holds afterwards, whatever
    was there before.  Nothing else changes but for directories that come on the
    way: no entry goes, files keep their contents, links their targets.  Where
    the writing fails, files are as they were, and the error names the directory
    if that is not there, or else the file (`Disk.writeDocument_replaces`).
-/

namespace ClassAtlas

namespace Disk

/-! ## Whether a directory is there -/

theorem isDirectory_iff {disk : Disk} {p : Path} :
    disk.isDirectory p
      ↔ ∃ place inside, disk.reach .visit p = .ok (.entry place (.directory inside)) := by
  rw [isDirectory, Option.isSome_iff_exists]
  simp only [directory?_eq_some_iff]
  exact exists_comm

/-- Where a directory is, none can be made: the directory itself is in the way, or a
    link to it. -/
theorem Leads.exists_in_the_way {top : Directory} {links : Nat} {place q : Place}
    {names : List Name} {slash : Bool} {d : Directory}
    (h : Leads top .visit links place names slash (.entry q (.directory d))) :
    ∃ q' e, Leads top .make links place names slash (.entry q' e) := by
  generalize hreached : Reached.entry q (.directory d) = reached at h
  induction h with
  | arrive harrive =>
    subst hreached
    exact ⟨_, _, .arrive (arrive_directory (of_arrive harrive).2)⟩
  | here hplace _ ih =>
    obtain ⟨q', e, hrest⟩ := ih hreached
    exact ⟨q', e, .here hplace hrest⟩
  | up hplace _ ih =>
    obtain ⟨q', e, hrest⟩ := ih hreached
    exact ⟨q', e, .up hplace hrest⟩
  | free => cases hreached
  | link _ hpurpose => cases hpurpose
  | @follow links place name rest slash reached inside target hname _ _ hfind _ ih =>
    cases rest with
    | nil => exact ⟨_, _, .link hname rfl hfind⟩
    | cons first rest =>
      obtain ⟨q', e, hrest⟩ := ih hreached
      exact ⟨q', e, .follow hname (by simp) (by simp) hfind hrest⟩
  | enter hname _ hfind hlink _ ih =>
    obtain ⟨q', e, hrest⟩ := ih hreached
    exact ⟨q', e, .enter hname (by simp) hfind hlink hrest⟩

theorem makeDirectory_of_isDirectory {disk : Disk} {p : Path} (h : disk.isDirectory p) :
    disk.makeDirectory p = .error .alreadyExists := by
  obtain ⟨place, inside, hreach⟩ := isDirectory_iff.1 h
  obtain ⟨hwalkable, hleads⟩ := reach_eq_ok_iff.1 hreach
  obtain ⟨q, e, hmake⟩ := hleads.exists_in_the_way
  have hreach' : disk.reach .make p = .ok (.entry q e) := reach_eq_ok_iff.2 ⟨hwalkable, hmake⟩
  rw [makeDirectory, hreach']

/-- Above a directory is a directory. -/
theorem isDirectory_parent? {disk : Disk} {p q : Path} (hq : p.parent? = some q) (hne : q ≠ .empty)
    (h : disk.isDirectory p) : disk.isDirectory q := by
  obtain ⟨place, inside, hreach⟩ := isDirectory_iff.1 h
  obtain ⟨hwalkable, hleads⟩ := reach_eq_ok_iff.1 hreach
  have hbytes := Path.bytes_parent? hq
  obtain ⟨below, hbelow, hnames⟩ := Path.names_parent? hq
  have hwalkable' : Walkable q := by
    refine ⟨?_, hne, Nat.lt_trans (Path.length_parent?_lt hq) hwalkable.length⟩
    rw [Bool.eq_false_iff]
    intro hzero
    have hmem := hbytes.subset (List.contains_iff_mem.1 hzero)
    have hnone := hwalkable.zero
    rw [List.contains_iff_mem.2 hmem] at hnone
    cases hnone
  have horigin : origin disk.cwd q = origin disk.cwd p := by
    rw [origin, origin, Path.isAbsolute_eq_of_isPrefix hbytes hne]
  rw [hnames] at hleads
  obtain ⟨_, place', inside', hway, -⟩ := hleads.split hbelow
  refine isDirectory_iff.2 ⟨place', inside', reach_eq_ok_iff.2 ⟨hwalkable', ?_⟩⟩
  rw [horigin]
  exact hway _

/-! ## Making directories -/

/-- Making directories comes to an end with the directory there, or not there and an
    error; paths with nothing above them are left alone. -/
theorem makeDirectories_cases (disk : Disk) (p : Path) :
    (∃ disk', disk.makeDirectories p = (disk', .ok ())
        ∧ (disk'.isDirectory p ∨ p.parent? = none))
      ∨ ∃ disk' e, disk.makeDirectories p = (disk', .error e) ∧ ¬ disk'.isDirectory p := by
  unfold makeDirectories
  induction p using Path.ancestors.induct with
  | case1 p hnone =>
    rw [Path.ancestors_of_parent?_eq_none hnone, makeAll, hnone]
    exact .inl ⟨disk, rfl, .inr rfl⟩
  | case2 p q hsome _ ih =>
    rw [Path.ancestors_of_parent? hsome, makeAll, hsome]
    simp only [Option.isNone_some, Bool.false_eq_true, if_false]
    split
    · next made hmade => exact .inl ⟨made, rfl, .inl (of_makeDirectory hmade).2⟩
    next e hmake =>
    split
    · -- something above is missing
      rcases ih with ⟨disk₁, hall, -⟩ | ⟨disk₁, e₁, hall, hnot⟩
      · rw [hall]
        simp only
        split
        · next made hmade => exact .inl ⟨made, rfl, .inl (of_makeDirectory hmade).2⟩
        split
        · next hthere => exact .inl ⟨disk₁, rfl, .inl hthere⟩
        · next e₂ _ hnone => exact .inr ⟨disk₁, e₂, rfl, hnone⟩
      · rw [hall]
        refine .inr ⟨disk₁, e₁, rfl, fun hthere => hnot ?_⟩
        refine isDirectory_parent? hsome ?_ hthere
        rintro rfl
        have hnone : Path.empty.parent? = none := by decide
        rw [Path.ancestors_of_parent?_eq_none hnone, makeAll, hnone] at hall
        cases hall
    split
    · next hthere => exact .inl ⟨disk, rfl, .inl hthere.2⟩
    · next hnot =>
      refine .inr ⟨disk, e, rfl, fun hthere => hnot ⟨?_, hthere⟩⟩
      rw [makeDirectory_of_isDirectory hthere] at hmake
      exact (Except.error.inj hmake).symm

/-! ## Writing a file -/

section

variable {disk disk' : Disk} {target : Place} {contents : Bytes}
  (htakes : disk.top.TakesFile target)

include htakes

/-- A file that is written changes nothing at any other place. -/
theorem keeps_put_file {place : Place} (hplace : place ≠ target) :
    disk.Keeps (disk.put target (.file contents)) place := by
  intro e he
  have haway : ¬ target <+: place := by
    rintro ⟨below, rfl⟩
    have hbelow : below ≠ [] := by
      rintro rfl
      exact hplace (List.append_nil target)
    obtain ⟨d, hd⟩ := Directory.exists_directory_of_at? he hbelow
    cases htakes.file _ hd
  have hsame := (sameApart_put disk target (.file contents)).top place haway
  rw [he] at hsame
  exact Option.map_eq_some_iff.1 hsame

/-- Only the file can be new. -/
theorem eq_target_of_fresh {place : Place} {e : Entry}
    (hsome : (disk.put target (.file contents)).top.at? place = some e)
    (hnone : disk.top.at? place = none) : place = target := by
  obtain ⟨parent, name, inside, rfl, hparent⟩ := htakes.parent
  by_cases hprefix : parent ++ [name] <+: place
  · obtain ⟨below, rfl⟩ := hprefix
    rw [List.append_assoc, List.singleton_append, put_top, Directory.at?_putAt hparent] at hsome
    rw [eq_nil_of_at?_file hsome, List.append_nil]
  · have hsame := (sameApart_put disk (parent ++ [name]) (.file contents)).top place hprefix
    rw [hnone, hsome] at hsame
    cases hsame

/-- No directory and no link stands where the file comes to stand. -/
theorem keepsWays_put_file : disk.top.KeepsWays (disk.put target (.file contents)).top where
  directory {place d} hd := by
    refine (keeps_put_file htakes ?_).directory hd
    rintro rfl
    cases htakes.file _ hd
  link {place t} hlink := by
    refine (keeps_put_file htakes ?_).link hlink
    rintro rfl
    cases htakes.file _ hlink

end

/-! ## Writing a document -/

theorem writeDocument_eq_ok {disk disk' : Disk} {dir : Path} {file document : String}
    {artifact : Artifact} (h : disk.writeDocument dir file document = (disk', .ok artifact)) :
    ∃ made, disk.makeDirectories dir = (made, .ok ())
      ∧ made.writeFile (dir.join (.ofString file)) (Utf8.encode document) = .ok disk'
      ∧ artifact = ⟨dir.join (.ofString file), document⟩ := by
  unfold writeDocument at h
  split at h
  · cases h
  next made hmade =>
  simp only at h
  split at h
  · cases h
  next written hwritten =>
  cases h
  exact ⟨made, hmade, hwritten, rfl⟩

theorem writeDocument_eq_error {disk disk' : Disk} {dir : Path} {file document : String}
    {err : GenerationError} (h : disk.writeDocument dir file document = (disk', .error err)) :
    (∃ e, disk.makeDirectories dir = (disk', .error e) ∧ err = .outputWrite dir e)
      ∨ ∃ e, disk.makeDirectories dir = (disk', .ok ())
        ∧ err = .outputWrite (dir.join (.ofString file)) e := by
  unfold writeDocument at h
  split at h
  · next made e hmade =>
    cases h
    exact .inl ⟨e, hmade, rfl⟩
  next made hmade =>
  simp only at h
  split at h
  · next e _ =>
    cases h
    exact .inr ⟨e, hmade, rfl⟩
  · cases h

/-- A document that is written goes into its file, and the file holds it and nothing
    else; what is at any other place is kept; nothing is new but the file and
    directories on the way to it.  If it is not written, no entry has gone or changed,
    and the error names the directory, which is not there, or else the file. -/
theorem writeDocument_replaces (disk : Disk) (dir : Path) (file document : String) :
    (∀ disk' artifact, disk.writeDocument dir file document = (disk', .ok artifact) →
      artifact.path = dir.join (.ofString file)
        ∧ disk'.read artifact.path = .ok (Utf8.encode document)
        ∧ ∃ target,
            disk'.reach .visit artifact.path = .ok (.entry target (.file (Utf8.encode document)))
            ∧ (∀ e, disk.top.at? target = some e → e.isFile)
            ∧ (∀ place, place ≠ target → disk.Keeps disk' place)
            ∧ ∀ place e, disk'.top.at? place = some e → disk.top.at? place = none →
                place = target ∨ disk'.OnWay dir.ancestors place)
    ∧ ∀ disk' err, disk.writeDocument dir file document = (disk', .error err) →
      ((∃ e, err = .outputWrite dir e) ∧ ¬ disk'.isDirectory dir
          ∨ (∃ e, err = .outputWrite (dir.join (.ofString file)) e)
            ∧ (disk'.isDirectory dir ∨ dir.parent? = none))
        ∧ (∀ place, disk.Keeps disk' place)
        ∧ ∀ place e, disk'.top.at? place = some e → disk.top.at? place = none →
            disk'.OnWay dir.ancestors place := by
  have hgrown : Grown dir.ancestors disk (disk.makeDirectories dir).1 :=
    grown_makeAll disk dir.ancestors
  constructor
  · intro disk' artifact h
    obtain ⟨made, hmade, hwritten, rfl⟩ := writeDocument_eq_ok h
    obtain ⟨target, htakes, rfl, hreach⟩ := reach_of_writeFile hwritten
    rw [hmade] at hgrown
    refine ⟨rfl, ?_, target, hreach, ?_, ?_, ?_⟩
    · rw [read, entry, hreach]
    · -- what is in the way of the file was there before the directories
      intro e he
      obtain ⟨e', he', hsame⟩ := hgrown.keeps target e he
      have hfile := htakes.file e' he'
      cases e' with
      | directory | link => cases hfile
      | file =>
        cases e with
        | directory | link => cases hsame
        | file => rfl
    · intro place hplace
      exact (hgrown.keeps place).trans (keeps_put_file htakes hplace)
    · intro place e hsome hnone
      cases hmid : made.top.at? place with
      | none => exact .inl (eq_target_of_fresh htakes hsome hmid)
      | some e' =>
        have hway := hgrown.fresh hmid hnone
        exact .inr (hway.keepsWays (keepsWays_put_file htakes) rfl (List.Subset.refl _))
  · intro disk' err h
    -- either way the disk is the one that making the directories left behind
    rcases writeDocument_eq_error h with ⟨e, hmade, rfl⟩ | ⟨e, hmade, rfl⟩
    · rw [hmade] at hgrown
      refine ⟨.inl ⟨⟨e, rfl⟩, ?_⟩, hgrown.keeps, fun _ _ => hgrown.fresh⟩
      rcases disk.makeDirectories_cases dir with ⟨_, hok, -⟩ | ⟨_, _, herror, hnot⟩
      · cases hmade.symm.trans hok
      · cases hmade.symm.trans herror
        exact hnot
    · rw [hmade] at hgrown
      refine ⟨.inr ⟨⟨e, rfl⟩, ?_⟩, hgrown.keeps, fun _ _ => hgrown.fresh⟩
      rcases disk.makeDirectories_cases dir with ⟨_, hok, hthere⟩ | ⟨_, _, herror, -⟩
      · cases hmade.symm.trans hok
        exact hthere
      · cases hmade.symm.trans herror

/-- A link `latest` to a file that is not there yet, and a file beside it. -/
def diskWithLatest : Disk where
  top := .directory (Utf8.encode "real") (.file (Utf8.encode "old.puml") (Utf8.encode "old") .empty)
    (.link (Utf8.encode "latest") (.ofString "real/new.puml")
      (.file (Utf8.encode "notes") (Utf8.encode "keep") .empty))

/-- Written through the link from a directory that has to be made, the document comes
    into being where the link points; below a file no directory can be made. -/
theorem writeDocument_replaces_latest :
    (∃ disk', diskWithLatest.writeDocument (.ofString "/made/deep") "../../latest" "classes"
          = (disk', .ok ⟨.ofString "/made/deep/../../latest", "classes"⟩)
        ∧ disk'.read (.ofString "/made/deep/../../latest") = .ok (Utf8.encode "classes")
        ∧ (∀ place, place ≠ [Utf8.encode "real", Utf8.encode "new.puml"] →
            diskWithLatest.Keeps disk' place)
        ∧ ∀ place e, disk'.top.at? place = some e → diskWithLatest.top.at? place = none →
            place = [Utf8.encode "real", Utf8.encode "new.puml"]
              ∨ disk'.OnWay [.ofString "/made/deep", .ofString "/made", .top] place)
      ∧ diskWithLatest.writeDocument (.ofString "/notes/deep") "latest" "classes"
          = (diskWithLatest, .error (.outputWrite (.ofString "/notes/deep") .notDirectory))
      ∧ ¬ diskWithLatest.isDirectory (.ofString "/notes/deep") := by
  have hwrite : (diskWithLatest.writeDocument (.ofString "/made/deep") "../../latest" "classes").2
      = .ok ⟨.ofString "/made/deep/../../latest", "classes"⟩ := by cbv
  have hrefused : diskWithLatest.writeDocument (.ofString "/notes/deep") "latest" "classes"
      = (diskWithLatest, .error (.outputWrite (.ofString "/notes/deep") .notDirectory)) := by cbv
  have hreached : (diskWithLatest.writeDocument (.ofString "/made/deep") "../../latest"
        "classes").1.reach .visit (.ofString "/made/deep/../../latest")
      = .ok (.entry [Utf8.encode "real", Utf8.encode "new.puml"] (.file (Utf8.encode "classes"))) := by
    cbv
  have habove : (Path.ofString "/made/deep").ancestors
      = [.ofString "/made/deep", .ofString "/made", .top] := by cbv
  refine ⟨⟨_, Prod.ext rfl hwrite, ?_⟩, hrefused, ?_⟩
  · obtain ⟨-, hread, target, hreach, -, hkeeps, hfresh⟩ :=
      (writeDocument_replaces diskWithLatest (.ofString "/made/deep") "../../latest" "classes").1
        _ _ (Prod.ext rfl hwrite)
    cases hreached.symm.trans hreach
    rw [habove] at hfresh
    exact ⟨hread, hkeeps, hfresh⟩
  · obtain ⟨⟨-, hnone⟩ | ⟨⟨e, herr⟩, -⟩, -⟩ :=
      (writeDocument_replaces diskWithLatest (.ofString "/notes/deep") "latest" "classes").2
        _ _ hrefused
    · exact hnone
    · -- the error names the directory and not the file in it
      injection herr with hpath
      exact absurd hpath (by decide +kernel)

end Disk

end ClassAtlas
