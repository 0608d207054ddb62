import ClassAtlas.Proofs.Disk.Apart
import ClassAtlas.Proofs.Disk.Below

/-! # One name further

    In a tree without links, what a path leads to one name below a directory is
    what the directory has of that name, for whatever purpose one goes there.
    So a directory is made there, or a file written, just if nothing else is in
    the way.
-/

namespace ClassAtlas

namespace Disk

section

variable {top : Directory} {purpose : Purpose} {links : Nat} {place q : Place}
  {xs ys : List Name} {slash : Bool} {inside : Directory}

/-- A walk that goes on from a directory goes on from its place. -/
theorem Leads.walk_append (hfree : top.LinkFree)
    (h : Leads top .visit links place xs slash (.entry q (.directory inside))) (hys : ys ≠ [])
    (purpose : Purpose) (slash' : Bool) :
    walk top purpose links place (xs ++ ys) slash' = walk top purpose links q ys slash' := by
  generalize hreached : Reached.entry q (.directory inside) = reached at h
  induction h with
  | arrive h =>
    subst hreached
    rw [(of_arrive h).1, List.nil_append]
  | here hplace _ ih =>
    rw [List.cons_append, walk, hplace]
    simp only [if_true]
    exact ih hreached
  | up hplace _ ih =>
    have hne : Path.up ≠ Path.here := by decide
    rw [List.cons_append, walk, hplace]
    simp only [if_neg hne, if_true]
    exact ih hreached
  | free => cases hreached
  | link => cases hreached
  | follow hname _ _ hfind => exact absurd hfind (hfree.find?_ne_link hname.place _ _)
  | @enter links place name rest slash reached inside e hname _ hfind hlink _ ih =>
    have hmore : (rest ++ ys).isEmpty = false := by simp [hys]
    rw [List.cons_append, walk, hname.place]
    simp only [if_neg hname.here, if_neg hname.up, hmore, Bool.false_and, Bool.false_eq_true,
      if_false, if_neg (Nat.not_lt.2 hname.length), hfind]
    cases e with
    | link target => exact absurd rfl (hlink target)
    | file | directory => exact ih hreached

/-- Where a last name leads from a directory. -/
theorem walk_last (hfree : top.LinkFree) (hplace : top.at? place = some (.directory inside))
    {name : Name} (hname : name.IsProper) (hlength : name.length ≤ nameLimit) :
    walk top purpose links place [name] false
      = .ok (match inside.find? name with
          | none => .free place name
          | some e => .entry (place ++ [name]) e) := by
  rw [walk, hplace]
  simp only [if_neg hname.2.1, if_neg hname.2.2.1, Bool.and_false, Bool.false_and,
    Bool.false_eq_true, if_false, if_neg (Nat.not_lt.2 hlength), List.isEmpty_nil, if_true]
  cases hfind : inside.find? name with
  | none => rfl
  | some e =>
    have hat : top.at? (place ++ [name]) = some e := by
      rw [Directory.at?_concat hplace, hfind]
    cases e with
    | link target => exact absurd hfind (hfree.find?_ne_link hplace _ _)
    | file contents =>
      show walk top purpose links (place ++ [name]) [] false = _
      rw [walk, arrive, hat]
      rfl
    | directory d =>
      show walk top purpose links (place ++ [name]) [] false = _
      rw [walk, arrive, hat]

end

theorem reach_eq_walk {p : Path} (h : Walkable p) (disk : Disk) (purpose : Purpose) :
    disk.reach purpose p
      = walk disk.top purpose linkLimit (origin disk.cwd p) p.names p.endsInSlash := by
  rw [reach, if_neg (Bool.eq_false_iff.1 h.zero), if_neg h.ne_empty,
    if_neg (Nat.not_le.2 h.length)]

section

variable {disk : Disk} {p : Path} {place : Place} {inside : Directory} {name : Name}
  (hfree : disk.top.LinkFree) (hp : disk.reach .visit p = .ok (.entry place (.directory inside)))
  (hname : name.IsProper) (hlength : name.length ≤ nameLimit) (hchild : Walkable (p.child name))

include hfree hp hname hlength hchild

theorem reach_child (purpose : Purpose) :
    disk.reach purpose (p.child name)
      = .ok (match inside.find? name with
          | none => .free place name
          | some e => .entry (place ++ [name]) e) := by
  obtain ⟨-, hleads⟩ := reach_eq_ok_iff.1 hp
  have hslash : Path.slash ∉ name := hname.2.2.2
  have horigin : origin disk.cwd (p.child name) = origin disk.cwd p := by
    rw [origin, origin, Path.isAbsolute_child _ hslash]
  have hends : (p.child name).endsInSlash = false :=
    Bool.eq_false_iff.2 (Path.not_endsInSlash_child p hslash hname.1)
  rw [reach_eq_walk hchild, Path.names_child _ hslash hname.1, horigin, hends,
    hleads.walk_append hfree (List.cons_ne_nil _ _)]
  exact walk_last hfree hleads.at?_eq hname hlength

theorem isDirectory_child {e : Entry} (hfind : inside.find? name = some e) :
    disk.isDirectory (p.child name) = e.isDirectory := by
  have hreach := reach_child hfree hp hname hlength hchild .visit
  rw [hfind] at hreach
  rw [isDirectory, directory?, entry, hreach]
  cases e <;> rfl

theorem makeDirectory_child :
    disk.makeDirectory (p.child name)
      = match inside.find? name with
        | none => .ok (disk.put (place ++ [name]) (.directory .empty))
        | some _ => .error .alreadyExists := by
  rw [makeDirectory, reach_child hfree hp hname hlength hchild]
  cases inside.find? name <;> rfl

/-- The directory is made, or it is there. -/
theorem makeDirectories_child :
    disk.makeDirectories (p.child name)
      = match inside.find? name with
        | none => (disk.put (place ++ [name]) (.directory .empty), .ok ())
        | some (.directory _) => (disk, .ok ())
        | some _ => (disk, .error .alreadyExists) := by
  have hslash : Path.slash ∉ name := hname.2.2.2
  have hmem : name ∈ (p.child name).steps := by
    rw [Path.steps_eq_filter_names, Path.names_child _ hslash hname.1]
    simp [hname.2.1]
  obtain ⟨q, hq⟩ := Path.exists_parent?_of_mem_steps hmem
  obtain ⟨above, habove⟩ : ∃ above, (p.child name).ancestors = p.child name :: above := by
    rw [Path.ancestors]
    split
    · exact ⟨_, rfl⟩
    · exact ⟨_, rfl⟩
  have hnone : (p.child name).parent?.isNone = false := by rw [hq]; rfl
  have hne : SystemError.alreadyExists ≠ .noEntry := nofun
  rw [makeDirectories, habove, makeAll, hnone, makeDirectory_child hfree hp hname hlength hchild]
  cases hfind : inside.find? name with
  | none => rfl
  | some e =>
    have hdirectory := isDirectory_child hfree hp hname hlength hchild hfind
    simp only [Bool.false_eq_true, if_false, if_neg hne, hdirectory, true_and]
    cases e with
    | directory | file => rfl
    | link target => exact absurd hfind (hfree.find?_ne_link (at?_of_reach hp) _ _)

/-- The file is written, unless a directory is there. -/
theorem writeFile_child (contents : Bytes) :
    disk.writeFile (p.child name) contents
      = match inside.find? name with
        | some (.directory _) => .error .isDirectory
        | _ => .ok (disk.put (place ++ [name]) (.file contents)) := by
  rw [writeFile, reach_child hfree hp hname hlength hchild]
  cases hfind : inside.find? name with
  | none => rfl
  | some e =>
    cases e with
    | directory | file => rfl
    | link target => exact absurd hfind (hfree.find?_ne_link (at?_of_reach hp) _ _)

end

end Disk

end ClassAtlas
