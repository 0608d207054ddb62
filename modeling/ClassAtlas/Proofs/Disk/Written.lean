import ClassAtlas.Proofs.Disk.Child
import ClassAtlas.Proofs.Disk.Writing
import ClassAtlas.Proofs.ProjectRoot.Containment

/-! # A document written below a directory

    A document goes into a file of a directory that is made if it is missing.
    `Disk.Written` says what the tree is afterwards: the file is there, and apart
    from the first of the two places that was not there before nothing has
    changed.  Writing the same document once more changes nothing.
-/

namespace ClassAtlas

namespace Disk

/-- The file `root/dir/file` was written, and the directory made where it was
    missing.  All that changed is at `apart` or below it. -/
structure Written (apart : Place) (disk disk' : Disk) (root : Place) (dir file : Name)
    (contents : Bytes) : Prop where
  same : SameApart apart disk disk'
  absent : ∀ inside, disk.top.at? apart ≠ some (.directory inside)
  place : apart = root ++ [dir] ∨ apart = root ++ [dir, file]
  only : ∀ {q e}, apart <+: q → disk'.top.at? q = some e →
    q = root ++ [dir] ∨ q = root ++ [dir, file]
  held : disk'.top.at? (root ++ [dir, file]) = some (.file contents)
  tree : disk'.top.IsTree
  linkFree : disk'.top.LinkFree

/-- A name that a directory can have, and that is not too long to be looked up. -/
def Usable (n : Name) : Prop := n.IsProper ∧ n.length ≤ nameLimit

instance (n : Name) : Decidable (Usable n) :=
  inferInstanceAs (Decidable (n.IsProper ∧ n.length ≤ nameLimit))

section

variable {disk : Disk} {place : Place} {inside : Directory} {file : Name}

/-- A file in a directory that is there. -/
theorem written_put_file (htree : disk.top.IsTree) (hfree : disk.top.LinkFree) {dir : Name}
    (hat : disk.top.at? (place ++ [dir]) = some (.directory inside)) (hfile : file.IsProper)
    (hfind : ∀ d, inside.find? file ≠ some (.directory d)) (contents : Bytes) :
    Written (place ++ [dir, file]) disk (disk.put (place ++ [dir, file]) (.file contents)) place dir
      file contents := by
  have hplace : place ++ [dir, file] = (place ++ [dir]) ++ [file] := by simp
  have hbelow : ∀ q, (disk.put (place ++ [dir, file]) (.file contents)).top.at?
      (place ++ dir :: file :: q) = (Entry.file contents).at? q := by
    intro q
    have hput := Directory.at?_putAt hat file (.file contents) q
    rw [hplace, put_top]
    simpa using hput
  refine ⟨sameApart_put disk _ _, ?_, .inr rfl, ?_, ?_, ?_, ?_⟩
  · intro d
    rw [hplace, Directory.at?_concat hat]
    exact hfind d
  · rintro q e ⟨more, rfl⟩ hq
    have hmore : place ++ [dir, file] ++ more = place ++ dir :: file :: more := by simp
    rw [hmore, hbelow] at hq
    cases eq_nil_of_at?_file hq
    exact .inr (List.append_nil _)
  · have hput := hbelow []
    rwa [Entry.at?_nil] at hput
  · refine htree.putAt ?_ trivial
    intro n hn
    rw [hplace, List.mem_append, List.mem_singleton] at hn
    rcases hn with hn | rfl
    · exact htree.isProper_of_at? hat n hn
    · exact hfile
  · exact hfree.putAt _ trivial

/-- A file in a directory that is made for it. -/
theorem written_put_directory (htree : disk.top.IsTree) (hfree : disk.top.LinkFree)
    (hat : disk.top.at? place = some (.directory inside)) {dir : Name} (hdir : dir.IsProper)
    (hfind : inside.find? dir = none) (hfile : file.IsProper) (contents : Bytes) :
    Written (place ++ [dir]) disk
      ((disk.put (place ++ [dir]) (.directory .empty)).put (place ++ [dir, file]) (.file contents))
      place dir file contents := by
  have hmade : ∀ q, (disk.put (place ++ [dir]) (.directory .empty)).top.at? (place ++ dir :: q)
      = (Entry.directory .empty).at? q :=
    Directory.at?_putAt hat dir (.directory .empty)
  have htree' : (disk.put (place ++ [dir]) (.directory .empty)).top.IsTree := by
    refine htree.putAt ?_ trivial
    intro n hn
    rw [List.mem_append, List.mem_singleton] at hn
    rcases hn with hn | rfl
    · exact htree.isProper_of_at? hat n hn
    · exact hdir
  have hput := written_put_file htree' (hfree.putAt _ trivial) (hmade []) hfile
    (fun _ => nofun) contents
  have hsame : SameApart (place ++ [dir]) disk
      ((disk.put (place ++ [dir]) (.directory .empty)).put (place ++ [dir, file])
        (.file contents)) := by
    have habove : place ++ [dir] <+: place ++ [dir, file] := ⟨[file], by simp⟩
    exact (sameApart_put disk _ _).trans ⟨hput.same.top.above habove, hput.same.cwd⟩
  refine ⟨hsame, ?_, .inl rfl, ?_, hput.held, hput.tree, hput.linkFree⟩
  · intro d
    rw [Directory.at?_concat hat, hfind]
    exact nofun
  · rintro q e ⟨more, rfl⟩ hq
    by_cases hbelow : place ++ [dir, file] <+: place ++ [dir] ++ more
    · exact hput.only hbelow hq
    · -- the directory that was made is empty but for the file
      have hbefore := hput.same.top _ hbelow
      have hmore : place ++ [dir] ++ more = place ++ dir :: more := by simp
      rw [hq, hmore, hmade] at hbefore
      cases more with
      | nil => exact .inl (List.append_nil _)
      | cons name more => cases hbefore

end

/-! ## Writing a document -/

theorem walkable_of_child {p : Path} {dir file : Name} (hdir : dir.IsProper) (hfile : file.IsProper)
    (h : Walkable ((p.child dir).child file)) : Walkable (p.child dir) := by
  refine walkable_of_join (Path.isAbsolute_mk_eq_false hfile.2.2.2) ?_ h
  intro hempty
  have hnames := Path.names_child p hdir.2.2.2 hdir.1
  rw [hempty] at hnames
  exact absurd hnames.symm (List.append_ne_nil_of_right_ne_nil _ (List.cons_ne_nil _ _))

section

variable {disk disk' : Disk} {p : Path} {root : Place} {inside : Directory} {dir : Name}
  (htree : disk.top.IsTree) (hfree : disk.top.LinkFree)
  (hp : disk.reach .visit p = .ok (.entry root (.directory inside)))

include htree hfree hp

/-- Written into a directory that was there. -/
theorem written_of_directory {file : Name} {contents : Bytes} {d : Directory} (hdir : Usable dir)
    (hfile : Usable file) (hfind : inside.find? dir = some (.directory d))
    (hwritten : disk.writeFile ((p.child dir).child file) contents = .ok disk') :
    Written (root ++ [dir, file]) disk disk' root dir file contents := by
  have hplace : disk.top.at? (root ++ [dir]) = some (.directory d) := by
    rw [Directory.at?_concat (at?_of_reach hp), hfind]
  have hwalkable := walkable_of_writeFile hwritten
  have hchild := reach_child hfree hp hdir.1 hdir.2 (walkable_of_child hdir.1 hfile.1 hwalkable) .visit
  rw [hfind] at hchild
  rw [writeFile_child hfree hchild hfile.1 hfile.2 hwalkable] at hwritten
  split at hwritten
  · cases hwritten
  next hother =>
  cases hwritten
  rw [List.append_assoc]
  exact written_put_file htree hfree hplace hfile.1 (fun d' hd' => hother d' hd') _

/-- Written into a directory that was made for it. -/
theorem written_of_missing {file : Name} {contents : Bytes} (hdir : Usable dir)
    (hfile : Usable file) (hfind : inside.find? dir = none)
    (hwritten : (disk.put (root ++ [dir]) (.directory .empty)).writeFile ((p.child dir).child file)
      contents = .ok disk') :
    Written (root ++ [dir]) disk disk' root dir file contents := by
  have hat := at?_of_reach hp
  have hnone : ∀ d, disk.top.at? (root ++ [dir]) ≠ some (.directory d) := by
    intro d
    rw [Directory.at?_concat hat, hfind]
    exact nofun
  have hfree' : (disk.put (root ++ [dir]) (.directory .empty)).top.LinkFree :=
    hfree.putAt _ trivial
  -- the way to the new directory is the one that there was
  obtain ⟨inside', hp'⟩ := reach_directory_sameApart hfree (sameApart_put disk _ (.directory .empty))
    (avoids_of_reach hfree hnone hp) hp
  have hfind' : inside'.find? dir = some (.directory .empty) := by
    rw [← Directory.at?_concat (at?_of_reach hp')]
    exact Directory.at?_putAt hat dir (.directory .empty) []
  have hwalkable := walkable_of_writeFile hwritten
  have hchild :=
    reach_child hfree' hp' hdir.1 hdir.2 (walkable_of_child hdir.1 hfile.1 hwalkable) .visit
  rw [hfind'] at hchild
  rw [writeFile_child hfree' hchild hfile.1 hfile.2 hwalkable] at hwritten
  cases hwritten
  rw [List.append_assoc]
  exact written_put_directory htree hfree hat hdir.1 hfind hfile.1 _

/-- What a document that was written has done to the disk. -/
theorem written_of_writeDocument {file document : String} (hdir : Usable dir)
    (hfile : Usable (Utf8.encode file)) {artifact : Artifact}
    (h : disk.writeDocument (p.child dir) file document = (disk', .ok artifact)) :
    artifact = ⟨(p.child dir).child (Utf8.encode file), document⟩
      ∧ Walkable ((p.child dir).child (Utf8.encode file))
      ∧ ∃ apart, Written apart disk disk' root dir (Utf8.encode file) (Utf8.encode document) := by
  have hpath : (p.child dir).join (.ofString file) = (p.child dir).child (Utf8.encode file) := rfl
  unfold writeDocument at h
  split at h
  · cases h
  next disk₁ hmade =>
  simp only [hpath] at h
  split at h
  · cases h
  next disk₂ hwritten =>
  cases h
  have hwalkable := walkable_of_writeFile hwritten
  refine ⟨rfl, hwalkable, ?_⟩
  have hchild : Walkable (p.child dir) := walkable_of_child hdir.1 hfile.1 hwalkable
  rw [makeDirectories_child hfree hp hdir.1 hdir.2 hchild] at hmade
  cases hfind : inside.find? dir with
  | none =>
    rw [hfind] at hmade
    cases hmade
    exact ⟨_, written_of_missing htree hfree hp hdir hfile hfind hwritten⟩
  | some e =>
    rw [hfind] at hmade
    cases e with
    | file | link => cases hmade
    | directory d =>
      cases hmade
      exact ⟨_, written_of_directory htree hfree hp hdir hfile hfind hwritten⟩

end

/-- The same document once more: nothing changes. -/
theorem Written.writeDocument_again {disk disk' : Disk} {p : Path} {root : Place}
    {inside : Directory} {dir : Name} {file document : String} {apart : Place}
    (hw : Written apart disk disk' root dir (Utf8.encode file) (Utf8.encode document))
    (hp : disk'.reach .visit p = .ok (.entry root (.directory inside))) (hdir : Usable dir)
    (hfile : Usable (Utf8.encode file))
    (hwalkable : Walkable ((p.child dir).child (Utf8.encode file))) :
    disk'.writeDocument (p.child dir) file document
        = (disk', .ok ⟨(p.child dir).child (Utf8.encode file), document⟩)
      ∧ disk'.isDirectory (p.child dir) := by
  have hchild : Walkable (p.child dir) := walkable_of_child hdir.1 hfile.1 hwalkable
  have hat := at?_of_reach hp
  have hplaces : root ++ [dir, Utf8.encode file] = (root ++ [dir]) ++ [Utf8.encode file] := by simp
  have hheld := hw.held
  rw [hplaces] at hheld
  obtain ⟨d, hd⟩ := Directory.exists_directory_of_at? hheld (List.cons_ne_nil _ _)
  have hfind : inside.find? dir = some (.directory d) := by
    rw [← Directory.at?_concat hat]
    exact hd
  have hfind' : d.find? (Utf8.encode file) = some (.file (Utf8.encode document)) := by
    rw [← Directory.at?_concat hd]
    exact hheld
  have hmake := makeDirectories_child hw.linkFree hp hdir.1 hdir.2 hchild
  have hlist := isDirectory_child hw.linkFree hp hdir.1 hdir.2 hchild hfind
  have hreach := reach_child hw.linkFree hp hdir.1 hdir.2 hchild .visit
  rw [hfind] at hmake hreach
  have hwrite := writeFile_child hw.linkFree hreach hfile.1 hfile.2 hwalkable (Utf8.encode document)
  rw [hfind'] at hwrite
  have hself : disk'.put (root ++ [dir] ++ [Utf8.encode file]) (.file (Utf8.encode document)) = disk' := by
    rw [put, Directory.putAt_eq_self hheld]
  refine ⟨?_, hlist⟩
  have hpath : (p.child dir).join (.ofString file) = (p.child dir).child (Utf8.encode file) := rfl
  rw [writeDocument, hmake]
  simp only [hpath, hwrite, hself]

end Disk

end ClassAtlas
