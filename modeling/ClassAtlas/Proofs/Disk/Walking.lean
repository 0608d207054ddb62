import ClassAtlas.Disk.Walk
import ClassAtlas.Proofs.Disk.Tree
import ClassAtlas.Proofs.Path.Steps

/-! # Where walks lead

    A walk that arrives is a finite list of steps, one for each name, and
    `Disk.Leads` has a rule for every kind of step.  The relation and the walk
    say the same (`Disk.walk_eq_ok_iff`); what holds of every arrival is then
    proved rule by rule.

    In a tree without links a walk goes by the names alone: `Place.follow` says
    where they lead, whatever the tree holds.
-/

namespace ClassAtlas

/-! ## Paths of places -/

/-- The path of a place below a directory. -/
def Path.below (source : Path) (place : Place) : Path := place.foldl Path.child source

theorem Path.names_below (source : Path) {place : Place} (h : ∀ n ∈ place, n.IsProper) :
    (source.below place).names = source.names ++ place := by
  have hclean : ∀ n ∈ place, slash ∉ n ∧ n ≠ [] := fun n hn => ⟨(h n hn).2.2.2, (h n hn).1⟩
  exact names_foldl_child source hclean

theorem Path.isAbsolute_below (source : Path) {place : Place} (h : ∀ n ∈ place, n.IsProper) :
    (source.below place).isAbsolute = source.isAbsolute :=
  isAbsolute_foldl_child source fun n hn => (h n hn).2.2.2

theorem Path.below_injective {source : Path} {p q : Place} (hp : ∀ n ∈ p, n.IsProper)
    (hq : ∀ n ∈ q, n.IsProper) (h : source.below p = source.below q) : p = q := by
  have hnames : source.names ++ p = source.names ++ q := by
    rw [← names_below source hp, ← names_below source hq, h]
  exact List.append_cancel_left hnames

namespace Disk

/-! ## Arrivals -/

/-- The place is a directory, and the name is looked up in it. -/
structure LooksUp (top : Directory) (place : Place) (inside : Directory) (name : Name) : Prop where
  place : top.at? place = some (.directory inside)
  here : name ≠ Path.here
  up : name ≠ Path.up
  length : name.length ≤ nameLimit

/-- From a place, the names lead to what is reached.  `links` bounds the links
    that may be followed, `slash` says that a directory is demanded at the end. -/
inductive Leads (top : Directory) (purpose : Purpose) :
    Nat → Place → List Name → Bool → Reached → Prop where
  | arrive {links place slash reached} (h : arrive top purpose place slash = .ok reached) :
      Leads top purpose links place [] slash reached
  /-- The directory itself. -/
  | here {links place rest slash reached inside} (hplace : top.at? place = some (.directory inside))
      (h : Leads top purpose links place rest slash reached) :
      Leads top purpose links place (Path.here :: rest) slash reached
  /-- The directory above; the top is above itself. -/
  | up {links place rest slash reached inside} (hplace : top.at? place = some (.directory inside))
      (h : Leads top purpose links place.dropLast rest slash reached) :
      Leads top purpose links place (Path.up :: rest) slash reached
  /-- A last name that nothing has. -/
  | free {links place name slash inside} (hname : LooksUp top place inside name)
      (hslash : (slash && purpose = .write) = false) (hfind : inside.find? name = none) :
      Leads top purpose links place [name] slash (.free place name)
  /-- A link in the way of a directory that is to be made. -/
  | link {links place name slash inside target} (hname : LooksUp top place inside name)
      (hpurpose : purpose = .make) (hfind : inside.find? name = some (.link target)) :
      Leads top purpose links place [name] slash (.entry (place ++ [name]) (.link target))
  /-- A link that is followed. -/
  | follow {links place name rest slash reached inside target}
      (hname : LooksUp top place inside name)
      (hslash : (rest.isEmpty && slash && purpose = .write) = false)
      (hpurpose : (rest.isEmpty && purpose = .make) = false)
      (hfind : inside.find? name = some (.link target))
      (h : Leads top purpose links (origin place target) (target.names ++ rest)
        (slash || (rest.isEmpty && target.endsInSlash)) reached) :
      Leads top purpose (links + 1) place (name :: rest) slash reached
  /-- Any other entry. -/
  | enter {links place name rest slash reached inside e} (hname : LooksUp top place inside name)
      (hslash : (rest.isEmpty && slash && purpose = .write) = false)
      (hfind : inside.find? name = some e) (hlink : ∀ target, e ≠ .link target)
      (h : Leads top purpose links (place ++ [name]) rest slash reached) :
      Leads top purpose links place (name :: rest) slash reached

section

variable {top : Directory} {purpose : Purpose} {links : Nat} {place : Place} {names : List Name}
  {slash : Bool} {reached : Reached}

theorem leads_of_walk (h : walk top purpose links place names slash = .ok reached) :
    Leads top purpose links place names slash reached := by
  induction links, place, names, slash using walk.induct top purpose with
  | case1 links place slash =>
    rw [walk] at h
    exact .arrive h
  | case2 links place slash rest inside hplace ih =>
    rw [walk, hplace] at h
    exact .here hplace (ih h)
  | case3 links place slash rest inside hplace _ ih =>
    rw [walk, hplace] at h
    exact .up hplace (ih h)
  | case4 links place slash name rest inside hplace hhere hup hwrite =>
    rw [walk, hplace] at h
    simp only [if_neg hhere, if_neg hup, if_pos hwrite] at h
    cases h
  | case5 links place slash name rest inside hplace hhere hup hwrite hlong =>
    rw [walk, hplace] at h
    simp only [if_neg hhere, if_neg hup, if_neg hwrite, if_pos hlong] at h
    cases h
  | case6 links place slash name rest inside hplace hhere hup hwrite hlong hfind hlast =>
    rw [walk, hplace] at h
    simp only [if_neg hhere, if_neg hup, if_neg hwrite, if_neg hlong, hfind, if_pos hlast] at h
    cases h
    cases List.isEmpty_iff.1 hlast
    exact .free ⟨hplace, hhere, hup, Nat.not_lt.1 hlong⟩ (Bool.eq_false_iff.2 hwrite) hfind
  | case7 links place slash name rest inside hplace hhere hup hwrite hlong hfind hlast =>
    rw [walk, hplace] at h
    simp only [if_neg hhere, if_neg hup, if_neg hwrite, if_neg hlong, hfind, if_neg hlast] at h
    cases h
  | case8 links place slash name rest inside hplace hhere hup hwrite hlong target hfind hmake =>
    rw [walk, hplace] at h
    simp only [if_neg hhere, if_neg hup, if_neg hwrite, if_neg hlong, hfind, if_pos hmake] at h
    cases h
    obtain ⟨hlast, hpurpose⟩ := Bool.and_eq_true_iff.1 hmake
    cases List.isEmpty_iff.1 hlast
    exact .link ⟨hplace, hhere, hup, Nat.not_lt.1 hlong⟩ (of_decide_eq_true hpurpose) hfind
  | case9 place slash name rest inside hplace hhere hup hwrite hlong target hfind hmake =>
    rw [walk, hplace] at h
    simp only [if_neg hhere, if_neg hup, if_neg hwrite, if_neg hlong, hfind, if_neg hmake] at h
    cases h
  | case10 place slash name rest inside hplace hhere hup hwrite hlong target hfind hmake links ih =>
    rw [walk, hplace] at h
    simp only [if_neg hhere, if_neg hup, if_neg hwrite, if_neg hlong, hfind, if_neg hmake] at h
    exact .follow ⟨hplace, hhere, hup, Nat.not_lt.1 hlong⟩ (Bool.eq_false_iff.2 hwrite)
      (Bool.eq_false_iff.2 hmake) hfind (ih h)
  | case11 links place slash name rest inside hplace hhere hup hwrite hlong e hlink hfind ih =>
    rw [walk, hplace] at h
    simp only [if_neg hhere, if_neg hup, if_neg hwrite, if_neg hlong, hfind] at h
    refine .enter ⟨hplace, hhere, hup, Nat.not_lt.1 hlong⟩ (Bool.eq_false_iff.2 hwrite) hfind hlink
      (ih ?_)
    cases e with
    | link target => exact absurd rfl (hlink target)
    | file contents => exact h
    | directory d => exact h
  | case12 links place slash name rest e he hplace =>
    rw [walk, hplace] at h
    cases e with
    | directory inside => exact absurd rfl (he inside)
    | file contents => cases h
    | link target => cases h
  | case13 links place slash name rest hplace =>
    rw [walk, hplace] at h
    cases h

theorem Leads.walk_eq (h : Leads top purpose links place names slash reached) :
    walk top purpose links place names slash = .ok reached := by
  induction h with
  | arrive h => rwa [walk]
  | here hplace _ ih =>
    rw [walk, hplace]
    simpa only [if_true] using ih
  | up hplace _ ih =>
    have hne : Path.up ≠ Path.here := by decide
    rw [walk, hplace]
    simpa only [if_neg hne, if_true] using ih
  | free hname hslash hfind =>
    rw [walk, hname.place]
    simp only [if_neg hname.here, if_neg hname.up, if_neg (Nat.not_lt.2 hname.length), hfind,
      List.isEmpty_nil, Bool.true_and, hslash, Bool.false_eq_true, if_false, if_true]
  | link hname hpurpose hfind =>
    subst hpurpose
    rw [walk, hname.place]
    simp [hname.here, hname.up, hfind, Nat.not_lt.2 hname.length]
  | follow hname hslash hpurpose hfind _ ih =>
    rw [walk, hname.place]
    simp only [if_neg hname.here, if_neg hname.up, if_neg (Nat.not_lt.2 hname.length), hfind,
      hslash, hpurpose, Bool.false_eq_true, if_false]
    exact ih
  | @enter links place name rest slash reached inside e hname hslash hfind hlink _ ih =>
    rw [walk, hname.place]
    simp only [if_neg hname.here, if_neg hname.up, if_neg (Nat.not_lt.2 hname.length), hfind,
      hslash, Bool.false_eq_true, if_false]
    cases e with
    | link target => exact absurd rfl (hlink target)
    | file contents => exact ih
    | directory d => exact ih

/-- The walk arrives just where the names lead. -/
theorem walk_eq_ok_iff : walk top purpose links place names slash = .ok reached
    ↔ Leads top purpose links place names slash reached :=
  ⟨leads_of_walk, Leads.walk_eq⟩

/-! ## What is reached -/

theorem arrive_directory {inside : Directory} (h : top.at? place = some (.directory inside)) :
    arrive top purpose place slash = .ok (.entry place (.directory inside)) := by
  rw [arrive, h]

/-- A walk that has no name left stays where it is. -/
theorem of_arrive {q : Place} {e : Entry}
    (h : arrive top purpose place slash = .ok (.entry q e)) :
    q = place ∧ top.at? place = some e := by
  unfold arrive at h
  split at h
  · cases h
  · next inside hplace =>
    cases h
    exact ⟨rfl, hplace⟩
  · next f _ hplace =>
    split at h
    · cases h
    · cases h
      exact ⟨rfl, hplace⟩

/-- An entry that is reached stands at its place in the tree. -/
theorem Leads.at?_eq {q : Place} {e : Entry}
    (h : Leads top purpose links place names slash (.entry q e)) : top.at? q = some e := by
  generalize hreached : Reached.entry q e = reached at h
  induction h with
  | arrive h =>
    subst hreached
    obtain ⟨rfl, hplace⟩ := of_arrive h
    exact hplace
  | here _ _ ih => exact ih hreached
  | up _ _ ih => exact ih hreached
  | free => cases hreached
  | link hname _ hfind =>
    cases hreached
    rw [Directory.at?_concat hname.place, hfind]
  | follow _ _ _ _ _ ih => exact ih hreached
  | enter _ _ _ _ _ ih => exact ih hreached

/-- A walk that goes on has been in a directory on the way. -/
theorem Leads.split {xs ys : List Name} (hys : ys ≠ [])
    (h : Leads top .visit links place (xs ++ ys) slash reached) :
    ∃ links' place' inside,
      (∀ s, Leads top .visit links place xs s (.entry place' (.directory inside)))
        ∧ Leads top .visit links' place' ys slash reached := by
  generalize hnames : xs ++ ys = names at h
  -- with no names left to split off, the walk stands in the directory now
  have hstart : ∀ {links place names slash reached inside},
      top.at? place = some (.directory inside) →
      Leads top .visit links place names slash reached → [] ++ ys = names →
      ∃ links' place' inside,
        (∀ s, Leads top .visit links place [] s (.entry place' (.directory inside)))
          ∧ Leads top .visit links' place' ys slash reached := by
    rintro links place names slash reached inside hplace h rfl
    exact ⟨links, place, inside, fun s => .arrive (arrive_directory hplace), h⟩
  induction h generalizing xs with
  | arrive =>
    exact absurd (List.append_eq_nil_iff.1 hnames).2 hys
  | here hplace h ih =>
    cases xs with
    | nil => exact hstart hplace (.here hplace h) hnames
    | cons x xs =>
      cases hnames
      obtain ⟨links', place', inside', hxs, hrest⟩ := ih rfl
      exact ⟨links', place', inside', fun s => .here hplace (hxs s), hrest⟩
  | up hplace h ih =>
    cases xs with
    | nil => exact hstart hplace (.up hplace h) hnames
    | cons x xs =>
      cases hnames
      obtain ⟨links', place', inside', hxs, hrest⟩ := ih rfl
      exact ⟨links', place', inside', fun s => .up hplace (hxs s), hrest⟩
  | free hname hslash hfind =>
    cases xs with
    | nil => exact hstart hname.place (.free hname hslash hfind) hnames
    | cons x xs => exact absurd (List.append_eq_nil_iff.1 (List.cons_eq_cons.1 hnames).2).2 hys
  | link hname hpurpose => cases hpurpose
  | @follow links place name rest slash reached inside target hname hslash hpurpose hfind h ih =>
    cases xs with
    | nil => exact hstart hname.place (.follow hname hslash hpurpose hfind h) hnames
    | cons x xs =>
      obtain ⟨rfl, rfl⟩ := List.cons_eq_cons.1 hnames
      have hmore : (target.names ++ xs) ++ ys = target.names ++ (xs ++ ys) := by simp
      obtain ⟨links', place', inside', hxs, hrest⟩ := ih hmore
      -- the link is not the last name of the whole path, so its slash does not count
      have hslash' : (slash || ((xs.append ys).isEmpty && target.endsInSlash)) = slash := by
        simp [hys]
      rw [hslash'] at hrest
      refine ⟨links', place', inside', fun s => ?_, hrest⟩
      exact .follow hname (by simp) (by simp) hfind (hxs _)
  | enter hname hslash hfind hlink h ih =>
    cases xs with
    | nil => exact hstart hname.place (.enter hname hslash hfind hlink h) hnames
    | cons x xs =>
      cases hnames
      obtain ⟨links', place', inside', hxs, hrest⟩ := ih rfl
      refine ⟨links', place', inside', fun s => ?_, hrest⟩
      exact .enter hname (by simp) hfind hlink (hxs s)

end

/-! ## Reaching by a path -/

/-- A path that is walked along is not too long and holds no zero byte. -/
structure Walkable (p : Path) : Prop where
  zero : p.bytes.contains 0 = false
  ne_empty : p ≠ .empty
  length : p.bytes.length < pathLimit

theorem reach_eq_ok_iff {disk : Disk} {purpose : Purpose} {p : Path} {reached : Reached} :
    disk.reach purpose p = .ok reached
      ↔ Walkable p
        ∧ Leads disk.top purpose linkLimit (origin disk.cwd p) p.names p.endsInSlash reached := by
  rw [← walk_eq_ok_iff, reach]
  constructor
  · intro h
    split at h
    · cases h
    split at h
    · cases h
    split at h
    · cases h
    · next hzero hempty hlong =>
      exact ⟨⟨Bool.eq_false_iff.2 hzero, hempty, Nat.not_le.1 hlong⟩, h⟩
  · rintro ⟨⟨hzero, hempty, hlong⟩, h⟩
    rw [if_neg (Bool.eq_false_iff.1 hzero), if_neg hempty, if_neg (Nat.not_le.2 hlong), h]

/-- What a path leads to stands at its place in the tree. -/
theorem at?_of_reach {disk : Disk} {purpose : Purpose} {p : Path} {place : Place} {e : Entry}
    (h : disk.reach purpose p = .ok (.entry place e)) : disk.top.at? place = some e :=
  (reach_eq_ok_iff.1 h).2.at?_eq

/-- What is below a directory that is reached is a tree. -/
theorem isTree_of_reach {disk : Disk} (htree : disk.top.IsTree) {purpose : Purpose} {p : Path}
    {place : Place} {inside : Directory}
    (h : disk.reach purpose p = .ok (.entry place (.directory inside))) : inside.IsTree :=
  htree.at? (at?_of_reach h)

theorem entry_eq_ok_iff {disk : Disk} {p : Path} {e : Entry} :
    disk.entry p = .ok e ↔ ∃ place, disk.reach .visit p = .ok (.entry place e) := by
  unfold entry
  split
  · next place f h => simp [h]
  · next place name h => simp [h]
  · next err h => simp [h]

theorem directory?_eq_some_iff_entry {disk : Disk} {p : Path} {inside : Directory} :
    disk.directory? p = some inside ↔ disk.entry p = .ok (.directory inside) := by
  unfold directory?
  split
  · next d h => simp [h]
  · next h => exact iff_of_false nofun (h inside)

theorem directory?_eq_some_iff {disk : Disk} {p : Path} {inside : Directory} :
    disk.directory? p = some inside
      ↔ ∃ place, disk.reach .visit p = .ok (.entry place (.directory inside)) := by
  rw [directory?_eq_some_iff_entry, entry_eq_ok_iff]

theorem isTree_of_directory? {disk : Disk} (h : disk.top.IsTree) {p : Path} {inside : Directory}
    (hinside : disk.directory? p = some inside) : inside.IsTree := by
  obtain ⟨place, hreach⟩ := directory?_eq_some_iff.1 hinside
  exact isTree_of_reach h hreach

/-- A disk as a system keeps one: a file tree, and a directory of it to be in. -/
structure WellFormed (disk : Disk) : Prop where
  tree : disk.top.IsTree
  cwd : ∃ inside, disk.top.at? disk.cwd = some (.directory inside)

theorem WellFormed.isProper_cwd {disk : Disk} (h : disk.WellFormed) :
    ∀ n ∈ disk.cwd, n.IsProper := by
  obtain ⟨inside, hinside⟩ := h.cwd
  exact h.tree.isProper_of_at? hinside

theorem isAbsolute_cwdPath {disk : Disk} (h : disk.WellFormed) : disk.cwdPath.isAbsolute :=
  Path.isAbsolute_below .top h.isProper_cwd

theorem names_cwdPath {disk : Disk} (h : disk.WellFormed) : disk.cwdPath.names = disk.cwd :=
  Path.names_below .top h.isProper_cwd

end Disk

/-! ## Places by names alone -/

/-- Where a name leads from a place, if nothing on the way is a link. -/
def Place.step (place : Place) (name : Name) : Place :=
  if name = Path.here then place
  else if name = Path.up then place.dropLast
  else place ++ [name]

/-- Where names lead from a place, if nothing on the way is a link. -/
def Place.follow (place : Place) (names : List Name) : Place := names.foldl Place.step place

@[simp] theorem Place.follow_nil (place : Place) : place.follow [] = place := rfl

@[simp] theorem Place.follow_cons (place : Place) (name : Name) (names : List Name) :
    place.follow (name :: names) = (place.step name).follow names := rfl

theorem Place.follow_append (place : Place) (xs ys : List Name) :
    place.follow (xs ++ ys) = (place.follow xs).follow ys := List.foldl_append

/-- A name `.` leads nowhere. -/
theorem Place.follow_filter_here (place : Place) (names : List Name) :
    place.follow (names.filter (· ≠ Path.here)) = place.follow names := by
  induction names generalizing place with
  | nil => rfl
  | cons name names ih =>
    by_cases h : name = Path.here
    · have hstep : place.step name = place := if_pos h
      rw [List.filter_cons_of_neg (by simpa using h), Place.follow_cons, hstep, ih]
    · rw [List.filter_cons_of_pos (by simpa using h), Place.follow_cons, Place.follow_cons, ih]

theorem Place.follow_steps (place : Place) (p : Path) :
    place.follow p.steps = place.follow p.names := by
  rw [Path.steps_eq_filter_names, Place.follow_filter_here]

/-- Ordinary names lead down. -/
theorem Place.follow_of_ordinary (place : Place) {names : List Name}
    (h : ∀ n ∈ names, n ≠ Path.here ∧ n ≠ Path.up) : place.follow names = place ++ names := by
  induction names generalizing place with
  | nil => simp
  | cons name names ih =>
    obtain ⟨⟨hhere, hup⟩, hnames⟩ := List.forall_mem_cons.1 h
    have hstep : place.step name = place ++ [name] := by
      rw [Place.step, if_neg hhere, if_neg hup]
    rw [Place.follow_cons, hstep, ih _ hnames, List.append_assoc, List.singleton_append]

/-- Without links, names lead where they say. -/
theorem Disk.Leads.eq_follow {top : Directory} (hfree : top.LinkFree) {links : Nat}
    {place q : Place} {names : List Name} {slash : Bool} {e : Entry}
    (h : Disk.Leads top .visit links place names slash (.entry q e)) : q = place.follow names := by
  generalize hreached : Reached.entry q e = reached at h
  induction h with
  | arrive h =>
    subst hreached
    exact (Disk.of_arrive h).1
  | here _ _ ih =>
    have hstep : ∀ place : Place, place.step Path.here = place := fun _ => if_pos rfl
    rw [Place.follow_cons, hstep]
    exact ih hreached
  | up _ _ ih =>
    have hstep : ∀ place : Place, place.step Path.up = place.dropLast := fun _ => by
      rw [Place.step, if_neg (by decide), if_pos rfl]
    rw [Place.follow_cons, hstep]
    exact ih hreached
  | free => cases hreached
  | link _ hpurpose => cases hpurpose
  | follow hname _ _ hfind => exact absurd hfind (hfree.find?_ne_link hname.place _ _)
  | @enter links place name rest slash reached inside e hname _ _ _ _ ih =>
    have hstep : place.step name = place ++ [name] := by
      rw [Place.step, if_neg hname.here, if_neg hname.up]
    rw [Place.follow_cons, hstep]
    exact ih hreached

end ClassAtlas
