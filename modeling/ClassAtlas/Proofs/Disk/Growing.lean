import ClassAtlas.Disk.Change
import ClassAtlas.Proofs.Disk.Writing

/-! # Disks that grow

    To make directories is to add entries: nothing goes away, and no file or
    link changes.  Walks pass directories and links only, so wherever a path led
    to a directory before, it leads to the same place afterwards.  What comes to
    a disk when a directory is made with those above it are the directories that
    its path and the paths above it lead to then (`Disk.grown_makeAll`).
-/

namespace ClassAtlas

/-! ## Ways that stay -/

/-- Directories and links of one tree are in the other too. -/
structure Directory.KeepsWays (top top' : Directory) : Prop where
  directory : ∀ {place d}, top.at? place = some (.directory d) →
    ∃ d', top'.at? place = some (.directory d')
  link : ∀ {place target}, top.at? place = some (.link target) →
    top'.at? place = some (.link target)

namespace Disk

section

variable {top top' : Directory} {purpose : Purpose} {links : Nat} {place parent q : Place}
  {names : List Name} {name : Name} {slash : Bool} {inside d : Directory}

/-- A walk that comes to a directory starts in one. -/
theorem Leads.exists_directory
    (h : Leads top purpose links place names slash (.entry q (.directory d))) :
    ∃ start, top.at? place = some (.directory start) := by
  cases h with
  | arrive harrive => exact ⟨d, (of_arrive harrive).2⟩
  | here hplace | up hplace => exact ⟨_, hplace⟩
  | follow hname | enter hname => exact ⟨_, hname.place⟩

/-- So does one that comes to a free name. -/
theorem Leads.exists_directory_of_free
    (h : Leads top purpose links place names slash (.free parent name)) :
    ∃ start, top.at? place = some (.directory start) := by
  cases h with
  | arrive harrive => exact absurd harrive arrive_ne_free
  | here hplace | up hplace => exact ⟨_, hplace⟩
  | free hname | follow hname | enter hname => exact ⟨_, hname.place⟩

variable (hways : top.KeepsWays top')

include hways

theorem LooksUp.keepsWays (h : LooksUp top place inside name) :
    ∃ inside', LooksUp top' place inside' name := by
  obtain ⟨inside', hinside'⟩ := hways.directory h.place
  exact ⟨inside', hinside', h.here, h.up, h.length⟩

/-- A link that is looked up is found in the other tree. -/
theorem LooksUp.find?_link {inside' : Directory} {target : Path} (h : LooksUp top place inside name)
    (h' : LooksUp top' place inside' name) (hfind : inside.find? name = some (.link target)) :
    inside'.find? name = some (.link target) := by
  rw [← Directory.at?_concat h.place] at hfind
  rw [← Directory.at?_concat h'.place]
  exact hways.link hfind

/-- So is a directory. -/
theorem LooksUp.find?_directory {inside' : Directory} (h' : LooksUp top' place inside' name)
    (hthere : ∃ d, top.at? (place ++ [name]) = some (.directory d)) :
    ∃ d', inside'.find? name = some (.directory d') := by
  obtain ⟨d, hd⟩ := hthere
  obtain ⟨d', hd'⟩ := hways.directory hd
  rw [Directory.at?_concat h'.place] at hd'
  exact ⟨d', hd'⟩

theorem Leads.keepsWays
    (h : Leads top .visit links place names slash (.entry q (.directory d))) :
    ∃ d', Leads top' .visit links place names slash (.entry q (.directory d')) := by
  generalize hreached : Reached.entry q (.directory d) = reached at h
  induction h with
  | arrive harrive =>
    subst hreached
    obtain ⟨rfl, hplace⟩ := of_arrive harrive
    obtain ⟨d', hd'⟩ := hways.directory hplace
    exact ⟨d', .arrive (arrive_directory hd')⟩
  | here hplace _ ih =>
    obtain ⟨_, hplace'⟩ := hways.directory hplace
    obtain ⟨d', hrest⟩ := ih hreached
    exact ⟨d', .here hplace' hrest⟩
  | up hplace _ ih =>
    obtain ⟨_, hplace'⟩ := hways.directory hplace
    obtain ⟨d', hrest⟩ := ih hreached
    exact ⟨d', .up hplace' hrest⟩
  | free => cases hreached
  | link _ hpurpose => cases hpurpose
  | follow hname hslash hpurpose hfind _ ih =>
    obtain ⟨inside', hname'⟩ := hname.keepsWays hways
    obtain ⟨d', hrest⟩ := ih hreached
    exact ⟨d', .follow hname' hslash hpurpose (hname.find?_link hways hname' hfind) hrest⟩
  | enter hname hslash _ _ hrest ih =>
    subst hreached
    obtain ⟨inside', hname'⟩ := hname.keepsWays hways
    obtain ⟨_, hfind'⟩ := hname'.find?_directory hways hrest.exists_directory
    obtain ⟨d', hrest'⟩ := ih rfl
    exact ⟨d', .enter hname' hslash hfind' nofun hrest'⟩

/-- A walk to make a directory comes to a free name; once the directory is there, a
    walk to look comes to it. -/
theorem Leads.made (hmade : top'.at? (parent ++ [name]) = some (.directory d))
    (h : Leads top .make links place names slash (.free parent name)) :
    Leads top' .visit links place names slash (.entry (parent ++ [name]) (.directory d)) := by
  generalize hreached : Reached.free parent name = reached at h
  induction h with
  | arrive harrive =>
    subst hreached
    exact absurd harrive arrive_ne_free
  | here hplace _ ih =>
    obtain ⟨_, hplace'⟩ := hways.directory hplace
    exact .here hplace' (ih hreached)
  | up hplace _ ih =>
    obtain ⟨_, hplace'⟩ := hways.directory hplace
    exact .up hplace' (ih hreached)
  | free hname =>
    cases hreached
    obtain ⟨inside', hname'⟩ := hname.keepsWays hways
    have hfind' := hmade
    rw [Directory.at?_concat hname'.place] at hfind'
    exact .enter hname' (by simp) hfind' nofun (.arrive (arrive_directory hmade))
  | link => cases hreached
  | follow hname _ _ hfind _ ih =>
    obtain ⟨inside', hname'⟩ := hname.keepsWays hways
    exact .follow hname' (by simp) (by simp) (hname.find?_link hways hname' hfind) (ih hreached)
  | enter hname _ _ _ hrest ih =>
    subst hreached
    obtain ⟨inside', hname'⟩ := hname.keepsWays hways
    obtain ⟨_, hfind'⟩ := hname'.find?_directory hways hrest.exists_directory_of_free
    exact .enter hname' (by simp) hfind' nofun (ih rfl)

end

/-! ## Entries that come -/

/-- One of the paths leads to a directory at the place. -/
def OnWay (disk : Disk) (paths : List Path) (place : Place) : Prop :=
  ∃ p ∈ paths, ∃ inside, disk.reach .visit p = .ok (.entry place (.directory inside))

/-- What the disk has at a place is still there: a file with its contents, a link
    with its target, a directory as a directory. -/
def Keeps (disk disk' : Disk) (place : Place) : Prop :=
  ∀ e, disk.top.at? place = some e → ∃ e', disk'.top.at? place = some e' ∧ e'.shallow = e.shallow

/-- Directories have come where one of the paths leads, and nothing has gone. -/
structure Grown (paths : List Path) (disk disk' : Disk) : Prop where
  cwd : disk'.cwd = disk.cwd
  keeps : ∀ place, disk.Keeps disk' place
  fresh : ∀ {place e}, disk'.top.at? place = some e → disk.top.at? place = none →
    disk'.OnWay paths place

theorem Keeps.trans {disk₁ disk₂ disk₃ : Disk} {place : Place} (h₁ : disk₁.Keeps disk₂ place)
    (h₂ : disk₂.Keeps disk₃ place) : disk₁.Keeps disk₃ place := by
  intro e he
  obtain ⟨e₂, he₂, hsame₂⟩ := h₁ e he
  obtain ⟨e₃, he₃, hsame₃⟩ := h₂ e₂ he₂
  exact ⟨e₃, he₃, hsame₃.trans hsame₂⟩

theorem Keeps.directory {disk disk' : Disk} {place : Place} (h : disk.Keeps disk' place)
    {d : Directory} (hd : disk.top.at? place = some (.directory d)) :
    ∃ d', disk'.top.at? place = some (.directory d') := by
  obtain ⟨e', he', hsame⟩ := h _ hd
  rcases Entry.eq_or_directories hsame with ⟨-, hnot⟩ | ⟨_, d', -, rfl⟩
  · exact absurd rfl (hnot d)
  · exact ⟨d', he'⟩

theorem Keeps.link {disk disk' : Disk} {place : Place} (h : disk.Keeps disk' place) {target : Path}
    (hlink : disk.top.at? place = some (.link target)) :
    disk'.top.at? place = some (.link target) := by
  obtain ⟨e', he', hsame⟩ := h _ hlink
  rcases Entry.eq_or_directories hsame with ⟨rfl, -⟩ | ⟨_, _, hd, -⟩
  · exact he'
  · cases hd

theorem OnWay.keepsWays {disk disk' : Disk} (hways : disk.top.KeepsWays disk'.top)
    (hcwd : disk'.cwd = disk.cwd) {paths more : List Path} (hmore : paths ⊆ more) {place : Place}
    (h : disk.OnWay paths place) : disk'.OnWay more place := by
  obtain ⟨p, hp, inside, hreach⟩ := h
  obtain ⟨hwalkable, hleads⟩ := reach_eq_ok_iff.1 hreach
  obtain ⟨inside', hleads'⟩ := hleads.keepsWays hways
  refine ⟨p, hmore hp, inside', reach_eq_ok_iff.2 ⟨hwalkable, ?_⟩⟩
  rw [hcwd]
  exact hleads'

namespace Grown

variable {paths more : List Path} {disk disk₁ disk₂ disk₃ disk' : Disk}

theorem refl (paths : List Path) (disk : Disk) : Grown paths disk disk where
  cwd := rfl
  keeps _ e he := ⟨e, he, rfl⟩
  fresh hsome hnone := by
    rw [hnone] at hsome
    cases hsome

theorem keepsWays (h : Grown paths disk disk') : disk.top.KeepsWays disk'.top :=
  ⟨(h.keeps _).directory, (h.keeps _).link⟩

theorem trans (h₁ : Grown paths disk₁ disk₂) (h₂ : Grown more disk₂ disk₃) :
    Grown (paths ++ more) disk₁ disk₃ where
  cwd := h₂.cwd.trans h₁.cwd
  keeps place := (h₁.keeps place).trans (h₂.keeps place)
  fresh {place e} hsome hnone := by
    cases hmid : disk₂.top.at? place with
    | none =>
      obtain ⟨p, hp, hreach⟩ := h₂.fresh hsome hmid
      exact ⟨p, List.mem_append_right _ hp, hreach⟩
    | some e' =>
      exact (h₁.fresh hmid hnone).keepsWays h₂.keepsWays h₂.cwd (List.subset_append_left _ _)

theorem mono (h : Grown paths disk disk') (hmore : paths ⊆ more) : Grown more disk disk' where
  cwd := h.cwd
  keeps := h.keeps
  fresh hsome hnone := by
    obtain ⟨p, hp, hreach⟩ := h.fresh hsome hnone
    exact ⟨p, hmore hp, hreach⟩

end Grown

/-! ## One entry -/

section

variable {disk : Disk} {parent : Place} {name : Name} {inside : Directory}
  (hparent : disk.top.at? parent = some (.directory inside)) (hfree : inside.find? name = none)

include hparent hfree

/-- Nothing is below a free name. -/
theorem at?_below_free (below : Place) : disk.top.at? (parent ++ name :: below) = none := by
  rw [Directory.at?_append, hparent, Option.bind_some, Entry.at?, Directory.at?_name_cons, hfree,
    Option.bind_none]

/-- An entry that is put under a free name changes nothing that was there. -/
theorem keeps_put_free (e : Entry) (place : Place) :
    disk.Keeps (disk.put (parent ++ [name]) e) place := by
  intro f hf
  have haway : ¬ parent ++ [name] <+: place := by
    rintro ⟨below, rfl⟩
    have hnone := at?_below_free hparent hfree below
    rw [List.append_assoc, List.singleton_append, hnone] at hf
    cases hf
  have hsame := (sameApart_put disk (parent ++ [name]) e).top place haway
  rw [hf] at hsame
  exact Option.map_eq_some_iff.1 hsame

omit hfree in
/-- The new entry and what is below it is all that is new. -/
theorem fresh_put_free {e f : Entry} {place : Place}
    (hsome : (disk.put (parent ++ [name]) e).top.at? place = some f)
    (hnone : disk.top.at? place = none) :
    ∃ below, place = parent ++ name :: below ∧ e.at? below = some f := by
  by_cases hprefix : parent ++ [name] <+: place
  · obtain ⟨below, rfl⟩ := hprefix
    refine ⟨below, by simp, ?_⟩
    rw [List.append_assoc, List.singleton_append, put_top, Directory.at?_putAt hparent] at hsome
    exact hsome
  · have hsame := (sameApart_put disk (parent ++ [name]) e).top place hprefix
    rw [hnone, hsome] at hsame
    cases hsame

end

/-! ## Directories that are made -/

theorem makeDirectory_eq_ok_iff {disk made : Disk} {p : Path} :
    disk.makeDirectory p = .ok made
      ↔ ∃ parent name, disk.reach .make p = .ok (.free parent name)
        ∧ disk.put (parent ++ [name]) (.directory .empty) = made := by
  unfold makeDirectory
  cases disk.reach .make p with
  | error e => simp
  | ok reached => cases reached <;> simp

/-- A directory that was made is where its path leads, and all that is new. -/
theorem of_makeDirectory {disk made : Disk} {p : Path} (h : disk.makeDirectory p = .ok made) :
    Grown [p] disk made ∧ made.isDirectory p := by
  obtain ⟨parent, name, hreach, rfl⟩ := makeDirectory_eq_ok_iff.1 h
  obtain ⟨hwalkable, hleads⟩ := reach_eq_ok_iff.1 hreach
  obtain ⟨inside, hparent, hfree⟩ := hleads.of_free
  have hkeeps := keeps_put_free hparent hfree (.directory .empty)
  have hways : disk.top.KeepsWays (disk.put (parent ++ [name]) (.directory .empty)).top :=
    ⟨(hkeeps _).directory, (hkeeps _).link⟩
  have hthere : (disk.put (parent ++ [name]) (.directory .empty)).top.at? (parent ++ [name])
      = some (.directory .empty) := Directory.at?_putAt hparent name (.directory .empty) []
  have hvisit : (disk.put (parent ++ [name]) (.directory .empty)).reach .visit p
      = .ok (.entry (parent ++ [name]) (.directory .empty)) :=
    reach_eq_ok_iff.2 ⟨hwalkable, hleads.made hways hthere⟩
  refine ⟨⟨rfl, hkeeps, ?_⟩, ?_⟩
  · intro place e hsome hnone
    obtain ⟨below, rfl, hbelow⟩ := fresh_put_free hparent hsome hnone
    -- nothing is in the new directory
    cases below with
    | nil => exact ⟨p, List.mem_singleton_self p, .empty, hvisit⟩
    | cons n ns => cases hbelow
  · exact Option.isSome_iff_exists.2 ⟨.empty, directory?_eq_some_iff.2 ⟨_, hvisit⟩⟩

/-- Whether or not all directories of a list can be made, those that are made are where
    its paths lead. -/
theorem grown_makeAll (disk : Disk) (paths : List Path) :
    Grown paths disk (disk.makeAll paths).1 := by
  induction paths with
  | nil => exact .refl [] disk
  | cons p above ih =>
    have hfirst : [p] ⊆ p :: above := by simp
    have hboth : above ++ [p] ⊆ p :: above := by simp
    rw [makeAll]
    split
    · exact .refl _ disk
    split
    · next hmade => exact (of_makeDirectory hmade).1.mono hfirst
    split
    · -- the directories above come first
      split
      · next hall =>
        rw [hall] at ih
        split
        · next hmade => exact (ih.trans (of_makeDirectory hmade).1).mono hboth
        · split <;> exact ih.mono (List.subset_cons_self p above)
      · exact ih.mono (List.subset_cons_self p above)
    · split <;> exact .refl _ disk

end Disk

end ClassAtlas
