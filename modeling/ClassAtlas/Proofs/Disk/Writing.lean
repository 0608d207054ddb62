import ClassAtlas.Generation
import ClassAtlas.Proofs.Disk.Apart
import ClassAtlas.Proofs.Disk.Below

/-! # Reading what was written

    A file that is written is found again by its path, links or not: the walk
    passes directories and links only, and none of them stands where the file
    comes to stand (`Disk.contents?_of_writeFile`).
-/

namespace ClassAtlas

/-- A path is relative only if it has a name or is empty. -/
theorem Path.isAbsolute_of_names_eq_nil {p : Path} (hne : p ≠ .empty) (h : p.names = []) :
    p.isAbsolute := by
  cases hbytes : p.bytes with
  | nil => exact absurd (congrArg Path.mk hbytes) hne
  | cons b bs =>
    by_cases hb : b = slash
    · rw [isAbsolute, hbytes, hb]
      rfl
    · -- the path starts with a name
      rw [names, hbytes, cut, if_neg hb] at h
      cases h

/-- The place of the file that a walk to write has come to. -/
def Reached.filePlace? : Reached → Option Place
  | .free parent name => some (parent ++ [name])
  | .entry place (.file _) => some place
  | .entry .. => none

/-- In an existing directory, the place is free or holds a file. -/
structure Directory.TakesFile (top : Directory) (target : Place) : Prop where
  parent : ∃ parent name inside,
    target = parent ++ [name] ∧ top.at? parent = some (.directory inside)
  file : ∀ e, top.at? target = some e → e.isFile

namespace Disk

theorem writeFile_eq_ok_iff {disk disk' : Disk} {p : Path} {contents : Bytes} :
    disk.writeFile p contents = .ok disk'
      ↔ ∃ reached target, disk.reach .write p = .ok reached ∧ reached.filePlace? = some target
        ∧ disk.put target (.file contents) = disk' := by
  unfold writeFile
  cases disk.reach .write p with
  | error e => simp
  | ok reached =>
    cases reached with
    | free parent name => simp [Reached.filePlace?]
    | entry place e => cases e <;> simp [Reached.filePlace?]

section

variable {top : Directory} {target : Place}

theorem arrive_ne_free {purpose : Purpose} {place parent : Place} {name : Name} {slash : Bool} :
    arrive top purpose place slash ≠ .ok (.free parent name) := by
  intro h
  unfold arrive at h
  split at h
  · cases h
  · cases h
  · split at h <;> cases h

/-- A last name that nothing has is missing in a directory. -/
theorem Leads.of_free {purpose : Purpose} {links : Nat} {place parent : Place} {names : List Name}
    {name : Name} {slash : Bool}
    (h : Leads top purpose links place names slash (.free parent name)) :
    ∃ inside, top.at? parent = some (.directory inside) ∧ inside.find? name = none := by
  generalize hreached : Reached.free parent name = reached at h
  induction h with
  | arrive h =>
    subst hreached
    exact absurd h arrive_ne_free
  | here _ _ ih => exact ih hreached
  | up _ _ ih => exact ih hreached
  | free hname _ hfind =>
    cases hreached
    exact ⟨_, hname.place, hfind⟩
  | link => cases hreached
  | follow _ _ _ _ _ ih => exact ih hreached
  | enter _ _ _ _ _ ih => exact ih hreached

theorem Leads.takesFile {purpose : Purpose} {links : Nat} {place : Place} {names : List Name}
    {slash : Bool} {reached : Reached} (h : Leads top purpose links place names slash reached)
    (htarget : reached.filePlace? = some target) : top.TakesFile target := by
  cases reached with
  | free parent name =>
    cases htarget
    obtain ⟨inside, hparent, hfind⟩ := h.of_free
    refine ⟨⟨parent, name, inside, rfl, hparent⟩, fun e he => ?_⟩
    rw [Directory.at?_concat hparent, hfind] at he
    cases he
  | entry q e =>
    cases e with
    | directory | link => cases htarget
    | file old =>
      cases htarget
      have hfile : top.at? target = some (.file old) := h.at?_eq
      constructor
      · rcases List.eq_nil_or_concat target with rfl | ⟨parent, name, rfl⟩
        · cases hfile
        · rw [List.concat_eq_append] at hfile
          obtain ⟨d, hd⟩ := Directory.exists_directory_of_at? hfile (List.cons_ne_nil _ _)
          exact ⟨parent, name, d, List.concat_eq_append, hd⟩
      · intro e he
        cases hfile.symm.trans he
        rfl

end

section

variable {top top' : Directory} {target : Place} {contents : Bytes} (htakes : top.TakesFile target)
  (hsame : top.SameApart target top') (hheld : top'.at? target = some (.file contents))

include htakes

/-- Only files are in the way of the file. -/
theorem not_isPrefix_of_at? {q : Place} {e : Entry} (h : top.at? q = some e)
    (he : e.isFile = false) : ¬ target <+: q := by
  rintro ⟨more, rfl⟩
  by_cases hmore : more = []
  · subst hmore
    rw [List.append_nil] at h
    have hfile := htakes.file e h
    rw [he] at hfile
    cases hfile
  · obtain ⟨d, hd⟩ := Directory.exists_directory_of_at? h hmore
    cases htakes.file _ hd

include hsame

theorem exists_directory_written {q : Place} {d : Directory} (h : top.at? q = some (.directory d)) :
    ∃ d', top'.at? q = some (.directory d') := by
  have hq := hsame q (not_isPrefix_of_at? htakes h rfl)
  rw [h] at hq
  obtain ⟨e', he', hshallow⟩ := Option.map_eq_some_iff.1 hq
  rcases Entry.eq_or_directories hshallow with ⟨-, hnot⟩ | ⟨_, d', -, rfl⟩
  · exact absurd rfl (hnot d)
  · exact ⟨d', he'⟩

theorem LooksUp.written {place : Place} {inside : Directory} {name : Name}
    (h : LooksUp top place inside name) : ∃ inside', LooksUp top' place inside' name := by
  obtain ⟨inside', hinside'⟩ := exists_directory_written htakes hsame h.place
  exact ⟨inside', hinside', h.here, h.up, h.length⟩

include hheld

/-- A walk that came to the place to write comes to the file to read. -/
theorem Leads.written {links : Nat} {place : Place} {names : List Name} {slash : Bool}
    {reached : Reached} (h : Leads top .write links place names slash reached)
    (htarget : reached.filePlace? = some target)
    (hstart : names = [] → slash → ∃ d, top.at? place = some (.directory d)) :
    Leads top' .visit links place names slash (.entry target (.file contents)) := by
  have hlinkless : ∀ t, Entry.file contents ≠ .link t := by
    intro t h
    cases h
  have harrive : ∀ {links}, Leads top' .visit links target [] false (.entry target (.file contents)) := by
    intro links
    refine .arrive ?_
    rw [Disk.arrive, hheld]
    rfl
  induction h with
  | @arrive links place slash reached h =>
    cases reached with
    | free parent name => exact absurd h arrive_ne_free
    | entry q e =>
      obtain ⟨rfl, hplace⟩ := of_arrive h
      cases e with
      | directory | link => cases htarget
      | file old =>
        cases htarget
        cases slash with
        | false => exact harrive
        | true =>
          obtain ⟨d, hd⟩ := hstart rfl rfl
          cases hplace.symm.trans hd
  | here hplace _ ih =>
    obtain ⟨d', hplace'⟩ := exists_directory_written htakes hsame hplace
    exact .here hplace' (ih htarget fun _ _ => ⟨_, hplace⟩)
  | up hplace _ ih =>
    obtain ⟨d', hplace'⟩ := exists_directory_written htakes hsame hplace
    have habove := exists_directory_of_isPrefix hplace (List.dropLast_prefix _)
    exact .up hplace' (ih htarget fun _ _ => habove)
  | @free links place name slash inside hname hslash hfind =>
    cases htarget
    obtain ⟨inside', hname'⟩ := hname.written htakes hsame
    rw [Directory.at?_concat hname'.place] at hheld
    have hslash' : slash = false := by simpa using hslash
    subst hslash'
    exact .enter hname' rfl hheld hlinkless harrive
  | link _ hpurpose => cases hpurpose
  | @follow links place name rest slash reached inside t hname hslash hpurpose hfind _ ih =>
    obtain ⟨inside', hname'⟩ := hname.written htakes hsame
    have hlink : top.at? (place ++ [name]) = some (.link t) := by
      rw [Directory.at?_concat hname.place, hfind]
    have hlink' := hsame _ (not_isPrefix_of_at? htakes hlink rfl)
    have hfind' : inside'.find? name = some (.link t) := by
      rw [Directory.at?_concat hname'.place, hlink] at hlink'
      obtain ⟨e', he', hshallow⟩ := Option.map_eq_some_iff.1 hlink'
      rcases Entry.eq_or_directories hshallow with ⟨rfl, -⟩ | ⟨d, -, hd, -⟩
      · exact he'
      · cases hd
    have hthere : ∃ d, top.at? (origin place t) = some (.directory d) := by
      unfold origin
      split
      · exact ⟨top, rfl⟩
      · exact ⟨inside, hname.place⟩
    exact .follow hname' (by simp) (by simp) hfind' (ih htarget fun _ _ => hthere)
  | @enter links place name rest slash reached inside e hname hslash hfind hlink _ ih =>
    obtain ⟨inside', hname'⟩ := hname.written htakes hsame
    have hthere : top.at? (place ++ [name]) = some e := by
      rw [Directory.at?_concat hname.place, hfind]
    -- the entry is the file, or something else that is still there
    have hfind' : ∃ e', inside'.find? name = some e' ∧ ∀ t, e' ≠ .link t := by
      rw [← Directory.at?_concat hname'.place]
      by_cases hfile : target = place ++ [name]
      · rw [← hfile]
        exact ⟨_, hheld, hlinkless⟩
      · have haway : ¬ target <+: place ++ [name] := by
          rw [List.prefix_concat_iff]
          rintro (heq | hbelow)
          · exact hfile heq
          · exact not_isPrefix_of_at? htakes hname.place rfl hbelow
        have hsame' := hsame _ haway
        rw [hthere] at hsame'
        obtain ⟨e', he', hshallow⟩ := Option.map_eq_some_iff.1 hsame'
        refine ⟨e', he', ?_⟩
        rcases Entry.eq_or_directories hshallow with ⟨rfl, -⟩ | ⟨d, d', -, rfl⟩
        · exact hlink
        · intro t h
          cases h
    obtain ⟨e', he', hlink'⟩ := hfind'
    refine .enter hname' (by simp) he' hlink' (ih htarget ?_)
    -- a directory is demanded of the last name only if it is one
    intro hrest hdemand
    subst hrest
    simp [hdemand] at hslash

end

theorem walkable_of_writeFile {disk disk' : Disk} {p : Path} {contents : Bytes}
    (h : disk.writeFile p contents = .ok disk') : Walkable p := by
  obtain ⟨reached, target, hreach, -, -⟩ := writeFile_eq_ok_iff.1 h
  exact (reach_eq_ok_iff.1 hreach).1

/-- A file that was written is where its path leads. -/
theorem reach_of_writeFile {disk disk' : Disk} {p : Path} {contents : Bytes}
    (h : disk.writeFile p contents = .ok disk') :
    ∃ target, disk.top.TakesFile target ∧ disk.put target (.file contents) = disk'
      ∧ disk'.reach .visit p = .ok (.entry target (.file contents)) := by
  obtain ⟨reached, target, hreach, htarget, rfl⟩ := writeFile_eq_ok_iff.1 h
  obtain ⟨hwalkable, hleads⟩ := reach_eq_ok_iff.1 hreach
  have htakes := hleads.takesFile htarget
  have hheld : (disk.put target (.file contents)).top.at? target = some (.file contents) := by
    obtain ⟨parent, name, inside, rfl, hparent⟩ := htakes.parent
    exact Directory.at?_putAt hparent name (.file contents) []
  have hstart : p.names = [] → p.endsInSlash →
      ∃ d, disk.top.at? (origin disk.cwd p) = some (.directory d) := by
    intro hnames _
    rw [origin, if_pos (Path.isAbsolute_of_names_eq_nil hwalkable.ne_empty hnames)]
    exact ⟨disk.top, rfl⟩
  have hread := hleads.written htakes (sameApart_put disk target _).top hheld htarget hstart
  exact ⟨target, htakes, rfl, reach_eq_ok_iff.2 ⟨hwalkable, hread⟩⟩

/-- A file that was written is read back. -/
theorem contents?_of_writeFile {disk disk' : Disk} {p : Path} {contents : Bytes}
    (h : disk.writeFile p contents = .ok disk') : disk'.contents? p = some contents := by
  obtain ⟨target, -, -, hreach⟩ := reach_of_writeFile h
  rw [contents?, entry, hreach]

/-- A document is written into its file or the error says which path was refused. -/
theorem writeDocument_cases (disk : Disk) (directory : Path) (file document : String) :
    (∃ disk', disk.writeDocument directory file document
          = (disk', .ok ⟨directory.join (.ofString file), document⟩)
        ∧ disk'.contents? (directory.join (.ofString file)) = some (Utf8.encode document))
      ∨ ∃ disk' path e,
          disk.writeDocument directory file document = (disk', .error (.outputWrite path e)) := by
  unfold writeDocument
  rcases disk.makeDirectories directory with ⟨disk₁, e | _⟩
  · exact .inr ⟨disk₁, directory, e, rfl⟩
  · cases hwrite : disk₁.writeFile (directory.join (.ofString file)) (Utf8.encode document) with
    | error e => exact .inr ⟨disk₁, directory.join (.ofString file), e, by simp only [hwrite]⟩
    | ok disk' =>
      refine .inl ⟨disk', ?_, contents?_of_writeFile hwrite⟩
      simp only [hwrite]

/-- So is a document. -/
theorem contents?_of_writeDocument {disk disk' : Disk} {directory : Path} {file document : String}
    {artifact : Artifact}
    (h : disk.writeDocument directory file document = (disk', .ok artifact)) :
    disk'.contents? artifact.path = some (Utf8.encode artifact.document) := by
  rcases disk.writeDocument_cases directory file document with
    ⟨disk'', hwrite, hcontents⟩ | ⟨disk'', path, e, hwrite⟩
  · cases h.symm.trans hwrite
    exact hcontents
  · cases h.symm.trans hwrite

end Disk

end ClassAtlas
