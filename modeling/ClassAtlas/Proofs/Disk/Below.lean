import ClassAtlas.Proofs.Disk.Walking

/-! # Paths below a directory

    What stands below a directory has a path of its own.  If that path leads
    anywhere, it leads to what the tree has at the place (`Disk.entry_below`).  It
    need not: a path can be too long for the system.
-/

namespace ClassAtlas

def Entry.isDirectory : Entry → Bool
  | .directory _ => true
  | _ => false

def Entry.isFile : Entry → Bool
  | .file _ => true
  | _ => false

namespace Disk

/-- Nothing is below a file. -/
theorem eq_nil_of_at?_file {contents : Bytes} {place : Place} {e : Entry}
    (h : (Entry.file contents).at? place = some e) : place = [] := by
  cases place with
  | nil => rfl
  | cons name names => cases h

/-! ## What can be opened -/

/-- Every directory below can be listed by its path. -/
def ListsBelow (disk : Disk) (source : Path) (inside : Directory) : Prop :=
  ∀ x ∈ inside.places, x.2.isDirectory → disk.isDirectory (source.below x.1)

/-- Every file below can be read by its path. -/
def ReadsBelow (disk : Disk) (source : Path) (inside : Directory) : Prop :=
  ∀ x ∈ inside.places, x.2.isFile → disk.isFile (source.below x.1)

/-- Tests every place below, as `ListsBelow` and `ReadsBelow` want it. -/
theorem forall_places_of_all {source : Path} {inside : Directory} {kind : Entry → Bool}
    {test : Path → Bool}
    (h : inside.places.all fun x => ! kind x.2 || test (source.below x.1)) :
    ∀ x ∈ inside.places, kind x.2 → test (source.below x.1) := by
  intro x hx hkind
  have htest := List.all_eq_true.1 h x hx
  simpa [hkind] using htest

/-! ## What the paths lead to -/

/-- From an entry, proper names lead to what is below it at their place. -/
theorem Leads.eq_of_at? {top : Directory} {links : Nat} {place below q : Place} {slash : Bool}
    {e f g : Entry} (h : Leads top .visit links place below slash (.entry q f))
    (hproper : ∀ n ∈ below, n.IsProper) (hplace : top.at? place = some g)
    (hbelow : g.at? below = some e) (hlink : ∀ target, e ≠ .link target) : f = e := by
  -- along the place, with the walk that many names further
  induction below generalizing place links g with
  | nil =>
    cases h with
    | arrive harrive =>
      obtain ⟨-, hf⟩ := of_arrive harrive
      rw [Entry.at?_nil] at hbelow
      rw [hplace, hbelow] at hf
      cases hf
      rfl
  | cons name below ih =>
    obtain ⟨hname, hproper⟩ := List.forall_mem_cons.1 hproper
    cases g with
    | file contents => cases hbelow
    | link target => cases hbelow
    | directory inside =>
      rw [Entry.at?, Directory.at?_name_cons] at hbelow
      obtain ⟨g', hfound, hbelow⟩ := Option.bind_eq_some_iff.1 hbelow
      cases h with
      | here => exact absurd rfl hname.2.1
      | up => exact absurd rfl hname.2.2.1
      | link _ hpurpose => cases hpurpose
      | @follow _ _ _ _ _ _ _ target hlook _ _ hfind _ =>
        -- nothing is below a link, so it would be the entry itself
        cases hplace.symm.trans hlook.place
        cases hfound.symm.trans hfind
        cases below with
        | nil =>
          rw [Entry.at?_nil] at hbelow
          cases hbelow
          exact absurd rfl (hlink target)
        | cons => cases hbelow
      | enter hlook _ hfind _ h =>
        refine ih h hproper ?_ hbelow
        rw [Directory.at?_concat hplace]
        exact hfound

/-- A path below a directory leads to what the tree has at its place, unless it
    leads nowhere. -/
theorem entry_below {disk : Disk} {source : Path} {inside : Directory} (htree : inside.IsTree)
    (hinside : disk.directory? source = some inside) {place : Place} {e f : Entry}
    (he : inside.at? place = some e) (hlink : ∀ target, e ≠ .link target)
    (hf : disk.entry (source.below place) = .ok f) : f = e := by
  by_cases hplace : place = []
  · subst hplace
    rw [Directory.at?_nil] at he
    cases he
    cases hf.symm.trans (directory?_eq_some_iff_entry.1 hinside)
    rfl
  · obtain ⟨q, hreach⟩ := directory?_eq_some_iff.1 hinside
    have hproper : ∀ n ∈ place, n.IsProper := htree.isProper_of_at? he
    have horigin : origin disk.cwd (source.below place) = origin disk.cwd source := by
      rw [origin, origin, Path.isAbsolute_below source hproper]
    obtain ⟨q', hreach'⟩ := entry_eq_ok_iff.1 hf
    obtain ⟨-, hleads⟩ := reach_eq_ok_iff.1 hreach
    obtain ⟨-, hleads'⟩ := reach_eq_ok_iff.1 hreach'
    rw [Path.names_below source hproper, horigin] at hleads'
    obtain ⟨links, p, d, hway, hrest⟩ := hleads'.split hplace
    -- the first part of the way is the walk to the directory
    have hsame := (hway source.endsInSlash).walk_eq.symm.trans hleads.walk_eq
    cases hsame
    exact hrest.eq_of_at? hproper hleads.at?_eq he hlink

/-- What is read by the path of a file is what the tree has there. -/
theorem ReadsBelow.read_eq {disk : Disk} {source : Path} {inside : Directory}
    (h : disk.ReadsBelow source inside) (htree : inside.IsTree)
    (hinside : disk.directory? source = some inside) {place : Place} {contents : Bytes}
    (hfile : inside.at? place = some (.file contents)) :
    disk.read (source.below place) = .ok contents := by
  have hne : place ≠ [] := by
    rintro rfl
    rw [Directory.at?_nil] at hfile
    cases hfile
  have hmem : (place, .file contents) ∈ inside.places := htree.mem_places_iff.2 ⟨hne, hfile⟩
  have hread := h _ hmem rfl
  unfold isFile contents? at hread
  split at hread
  · next contents' hentry =>
    have heq := entry_below htree hinside hfile (fun _ => nofun) hentry
    rw [read, hentry]
    cases heq
    rfl
  · cases hread

end Disk

end ClassAtlas
