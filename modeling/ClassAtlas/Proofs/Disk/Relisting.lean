import ClassAtlas.Proofs.Disk.Below

/-! # Listing in another order

    A system may list a directory in any order.  Two trees that differ in this
    only, at any depth, have the same entries at the same places, and walks
    lead to the same places in both.
-/

namespace ClassAtlas

/-! ## Trees -/

/-- The same tree with directories listed in another order. -/
inductive Directory.Relisted : Directory → Directory → Prop where
  | empty : Relisted .empty .empty
  | cons (name : Name) (e : Entry) {rest rest' : Directory} (hrest : Relisted rest rest') :
      Relisted (cons name e rest) (cons name e rest')
  | directory (name : Name) {inside inside' rest rest' : Directory}
      (hinside : Relisted inside inside') (hrest : Relisted rest rest') :
      Relisted (cons name (.directory inside) rest) (cons name (.directory inside') rest')
  | swap (name other : Name) (e f : Entry) (rest : Directory) :
      Relisted (cons name e (cons other f rest)) (cons other f (cons name e rest))
  | trans {d₁ d₂ d₃ : Directory} (h₁ : Relisted d₁ d₂) (h₂ : Relisted d₂ d₃) : Relisted d₁ d₃

/-- The same entry, up to the order in which directories are listed. -/
inductive Entry.Relisted : Entry → Entry → Prop where
  | file (contents : Bytes) : Relisted (.file contents) (.file contents)
  | link (target : Path) : Relisted (.link target) (.link target)
  | directory {inside inside' : Directory} (h : inside.Relisted inside') :
      Relisted (.directory inside) (.directory inside')

theorem Directory.Relisted.refl (d : Directory) : d.Relisted d := by
  induction d using recCons with
  | empty => exact .empty
  | cons name e rest _ ih => exact .cons name e ih

theorem Directory.Relisted.symm {d d' : Directory} (h : d.Relisted d') : d'.Relisted d := by
  induction h with
  | empty => exact .empty
  | cons name e _ ih => exact .cons name e ih
  | directory name _ _ ihInside ih => exact .directory name ihInside ih
  | swap name other e f rest => exact .swap other name f e rest
  | trans _ _ ih₁ ih₂ => exact ih₂.trans ih₁

theorem Entry.Relisted.refl (e : Entry) : e.Relisted e := by
  cases e with
  | file contents => exact .file contents
  | link target => exact .link target
  | directory inside => exact .directory (.refl inside)

theorem Entry.Relisted.trans {e₁ e₂ e₃ : Entry} (h₁ : e₁.Relisted e₂) (h₂ : e₂.Relisted e₃) :
    e₁.Relisted e₃ := by
  cases h₁ with
  | file contents => exact h₂
  | link target => exact h₂
  | directory h =>
    cases h₂ with
    | directory h' => exact .directory (h.trans h')

/-- The same or nothing on both sides. -/
abbrev SameFound : Option Entry → Option Entry → Prop := Option.Rel Entry.Relisted

theorem SameFound.refl (found : Option Entry) : SameFound found found := by
  cases found with
  | none => exact .none
  | some e => exact .some (.refl e)

theorem SameFound.trans {f₁ f₂ f₃ : Option Entry} (h₁ : SameFound f₁ f₂) (h₂ : SameFound f₂ f₃) :
    SameFound f₁ f₃ := by
  cases h₁ with
  | none => exact h₂
  | some h =>
    cases h₂ with
    | some h' => exact .some (h.trans h')

theorem SameFound.of_some {e : Entry} {found : Option Entry} (h : SameFound (some e) found) :
    ∃ e', found = some e' ∧ e.Relisted e' := by
  cases h with
  | some he => exact ⟨_, rfl, he⟩

theorem SameFound.of_none {found : Option Entry} (h : SameFound none found) : found = none := by
  cases h
  rfl

theorem SameFound.of_link {target : Path} {found : Option Entry}
    (h : SameFound (some (.link target)) found) : found = some (.link target) := by
  obtain ⟨e', rfl, he⟩ := h.of_some
  cases he
  rfl

theorem SameFound.of_directory {inside : Directory} {found : Option Entry}
    (h : SameFound (some (.directory inside)) found) :
    ∃ inside', found = some (.directory inside') ∧ inside.Relisted inside' := by
  obtain ⟨e', rfl, he⟩ := h.of_some
  cases he with
  | directory hinside => exact ⟨_, rfl, hinside⟩

namespace Directory

theorem Relisted.names_perm {d d' : Directory} (h : d.Relisted d') : d.names.Perm d'.names := by
  induction h with
  | empty => exact .refl _
  | cons name e _ ih =>
    rw [names_cons, names_cons]
    exact ih.cons name
  | directory name _ _ _ ih =>
    rw [names_cons, names_cons]
    exact ih.cons name
  | swap name other e f rest =>
    simp only [names_cons]
    exact .swap other name rest.names
  | trans _ _ ih₁ ih₂ => exact ih₁.trans ih₂

theorem Relisted.isTree {d d' : Directory} (h : d.Relisted d') (htree : d.IsTree) : d'.IsTree := by
  induction h with
  | empty => exact htree
  | cons name e hrest ih =>
    obtain ⟨hname, hnew, he, hresttree⟩ := isTree_cons_iff.1 htree
    exact isTree_cons_iff.2
      ⟨hname, fun hmem => hnew (hrest.names_perm.mem_iff.2 hmem), he, ih hresttree⟩
  | directory name _ hrest ihInside ih =>
    obtain ⟨hname, hnew, hinside, hresttree⟩ := isTree_cons_iff.1 htree
    exact isTree_cons_iff.2
      ⟨hname, fun hmem => hnew (hrest.names_perm.mem_iff.2 hmem), ihInside hinside, ih hresttree⟩
  | swap name other e f rest =>
    obtain ⟨hname, hnew, he, htail⟩ := isTree_cons_iff.1 htree
    obtain ⟨hother, hnew', hf, hrest⟩ := isTree_cons_iff.1 htail
    rw [names_cons, List.mem_cons, not_or] at hnew
    refine isTree_cons_iff.2 ⟨hother, ?_, hf, isTree_cons_iff.2 ⟨hname, hnew.2, he, hrest⟩⟩
    rw [names_cons, List.mem_cons, not_or]
    exact ⟨fun heq => hnew.1 heq.symm, hnew'⟩
  | trans _ _ ih₁ ih₂ => exact ih₂ (ih₁ htree)

theorem Relisted.find? {d d' : Directory} (h : d.Relisted d') (htree : d.IsTree) (name : Name) :
    SameFound (d.find? name) (d'.find? name) := by
  induction h with
  | empty => exact .none
  | cons other e _ ih =>
    rw [find?_cons, find?_cons]
    split
    · exact .some (.refl e)
    · exact ih (isTree_cons_iff.1 htree).2.2.2
  | directory other hinside _ _ ih =>
    rw [find?_cons, find?_cons]
    split
    · exact .some (.directory hinside)
    · exact ih (isTree_cons_iff.1 htree).2.2.2
  | swap first second e f rest =>
    -- the two names differ, so it does not matter which is looked at first
    have hne : first ≠ second := by
      have hnew := (isTree_cons_iff.1 htree).2.1
      rw [names_cons, List.mem_cons, not_or] at hnew
      exact hnew.1
    simp only [find?_cons]
    by_cases hfirst : name = first
    · have hsecond : name ≠ second := hfirst ▸ hne
      rw [if_pos hfirst, if_neg hsecond, if_pos hfirst]
      exact .refl _
    · rw [if_neg hfirst, if_neg hfirst]
      exact .refl _
  | trans h₁ _ ih₁ ih₂ => exact (ih₁ htree).trans (ih₂ (h₁.isTree htree))

end Directory

theorem Entry.Relisted.at? {e e' : Entry} (h : e.Relisted e') (htree : e.IsTree) (place : Place) :
    SameFound (e.at? place) (e'.at? place) := by
  -- along the place; the two entries are related at every step
  induction place generalizing e e' with
  | nil =>
    rw [Entry.at?_nil, Entry.at?_nil]
    exact .some h
  | cons name place ih =>
    cases h with
    | file contents => exact .refl _
    | link target => exact .refl _
    | @directory inside inside' h =>
      have hinside : inside.IsTree := htree
      rw [Entry.at?, Entry.at?, Directory.at?_name_cons, Directory.at?_name_cons]
      have hfound := h.find? hinside name
      cases hleft : inside.find? name with
      | none =>
        rw [hleft] at hfound
        rw [hfound.of_none]
        exact .none
      | some f =>
        rw [hleft] at hfound
        obtain ⟨f', hright, hf⟩ := hfound.of_some
        rw [hright]
        exact ih hf (hinside.find? hleft).2

theorem Directory.Relisted.at? {d d' : Directory} (h : d.Relisted d') (htree : d.IsTree)
    (place : Place) : SameFound (d.at? place) (d'.at? place) :=
  Entry.Relisted.at? (.directory h) htree place

/-- A directory is found in both trees, listed in its own way in each. -/
theorem Directory.Relisted.at?_directory {d d' inside : Directory} (h : d.Relisted d')
    (htree : d.IsTree) {place : Place} (hplace : d.at? place = some (.directory inside)) :
    ∃ inside', d'.at? place = some (.directory inside') ∧ inside.Relisted inside' := by
  have hfound := h.at? htree place
  rw [hplace] at hfound
  exact hfound.of_directory

/-! ## Walks -/

/-- The same place, with the same entry up to the order of listings. -/
inductive Reached.Relisted : Reached → Reached → Prop where
  | entry (place : Place) {e e' : Entry} (h : e.Relisted e') :
      Relisted (.entry place e) (.entry place e')
  | free (parent : Place) (name : Name) : Relisted (.free parent name) (.free parent name)

theorem Reached.Relisted.refl (reached : Reached) : reached.Relisted reached := by
  cases reached with
  | entry place e => exact .entry place (.refl e)
  | free parent name => exact .free parent name

/-- The same disk, with directories listed in another order. -/
structure Disk.Relisted (disk disk' : Disk) : Prop where
  top : disk.top.Relisted disk'.top
  cwd : disk'.cwd = disk.cwd

namespace Disk

theorem arrive_relisted {top top' : Directory} (h : top.Relisted top') (htree : top.IsTree)
    {purpose : Purpose} {place : Place} {slash : Bool} {reached : Reached}
    (harrive : arrive top purpose place slash = .ok reached) :
    ∃ reached', arrive top' purpose place slash = .ok reached' ∧ reached.Relisted reached' := by
  have hfound := h.at? htree place
  unfold arrive at harrive ⊢
  cases hleft : top.at? place with
  | none =>
    rw [hleft] at harrive
    cases harrive
  | some e =>
    rw [hleft] at harrive hfound
    obtain ⟨e', hright, he⟩ := hfound.of_some
    rw [hright]
    cases he with
    | file contents => exact ⟨reached, harrive, .refl reached⟩
    | link target => exact ⟨reached, harrive, .refl reached⟩
    | directory hinside =>
      cases harrive
      exact ⟨_, rfl, .entry place (.directory hinside)⟩

/-- A name is looked up in both trees. -/
theorem LooksUp.relisted {top top' inside : Directory} (h : top.Relisted top') (htree : top.IsTree)
    {place : Place} {name : Name} (hname : LooksUp top place inside name) :
    ∃ inside', LooksUp top' place inside' name
      ∧ SameFound (inside.find? name) (inside'.find? name) := by
  obtain ⟨inside', hplace, hinside⟩ := h.at?_directory htree hname.place
  have htree' : inside.IsTree := htree.at? hname.place
  exact ⟨inside', ⟨hplace, hname.here, hname.up, hname.length⟩, hinside.find? htree' name⟩

/-- Walks lead to the same places, whatever the order of listings. -/
theorem Leads.relisted {top top' : Directory} (h : top.Relisted top') (htree : top.IsTree)
    {purpose : Purpose} {links : Nat} {place : Place} {names : List Name} {slash : Bool}
    {reached : Reached} (hleads : Leads top purpose links place names slash reached) :
    ∃ reached', Leads top' purpose links place names slash reached'
      ∧ reached.Relisted reached' := by
  induction hleads with
  | arrive harrive =>
    obtain ⟨reached', harrive', hsame⟩ := arrive_relisted h htree harrive
    exact ⟨reached', .arrive harrive', hsame⟩
  | here hplace _ ih =>
    obtain ⟨reached', hleads', hsame⟩ := ih
    obtain ⟨inside', hplace', -⟩ := h.at?_directory htree hplace
    exact ⟨reached', .here hplace' hleads', hsame⟩
  | up hplace _ ih =>
    obtain ⟨reached', hleads', hsame⟩ := ih
    obtain ⟨inside', hplace', -⟩ := h.at?_directory htree hplace
    exact ⟨reached', .up hplace' hleads', hsame⟩
  | free hname hslash hfind =>
    obtain ⟨inside', hname', hfound⟩ := hname.relisted h htree
    rw [hfind] at hfound
    exact ⟨_, .free hname' hslash hfound.of_none, .free _ _⟩
  | link hname hpurpose hfind =>
    obtain ⟨inside', hname', hfound⟩ := hname.relisted h htree
    rw [hfind] at hfound
    exact ⟨_, .link hname' hpurpose hfound.of_link, .entry _ (.link _)⟩
  | follow hname hslash hpurpose hfind _ ih =>
    obtain ⟨reached', hleads', hsame⟩ := ih
    obtain ⟨inside', hname', hfound⟩ := hname.relisted h htree
    rw [hfind] at hfound
    exact ⟨reached', .follow hname' hslash hpurpose hfound.of_link hleads', hsame⟩
  | enter hname hslash hfind hlink _ ih =>
    obtain ⟨reached', hleads', hsame⟩ := ih
    obtain ⟨inside', hname', hfound⟩ := hname.relisted h htree
    rw [hfind] at hfound
    obtain ⟨e', hfind', he⟩ := hfound.of_some
    -- an entry that is no link is none in either tree
    have hlink' : ∀ target, e' ≠ .link target := by
      rintro target rfl
      cases he
      exact hlink target rfl
    exact ⟨reached', .enter hname' hslash hfind' hlink' hleads', hsame⟩

/-- A path leads to the same directory, listed in its own way. -/
theorem Relisted.directory? {disk disk' : Disk} (h : disk.Relisted disk') (htree : disk.top.IsTree)
    {p : Path} {inside : Directory} (hinside : disk.directory? p = some inside) :
    ∃ inside', disk'.directory? p = some inside' ∧ inside.Relisted inside' := by
  obtain ⟨place, hreach⟩ := directory?_eq_some_iff.1 hinside
  obtain ⟨hwalkable, hleads⟩ := reach_eq_ok_iff.1 hreach
  obtain ⟨reached', hleads', hsame⟩ := hleads.relisted h.top htree
  cases hsame with
  | entry _ he =>
    cases he with
    | directory hlisted =>
      rw [← h.cwd] at hleads'
      exact ⟨_, directory?_eq_some_iff.2 ⟨place, reach_eq_ok_iff.2 ⟨hwalkable, hleads'⟩⟩, hlisted⟩

/-- What can be listed in one order can be listed in another. -/
theorem ListsBelow.relisted {disk disk' : Disk} {source : Path} {inside inside' : Directory}
    (hlists : disk.ListsBelow source inside) (hdisk : disk.Relisted disk') (htree : disk.top.IsTree)
    (h : inside.Relisted inside') (hinside : inside.IsTree) : disk'.ListsBelow source inside' := by
  rintro ⟨place, e'⟩ hmem hdirectory
  cases e' with
  | file contents => cases hdirectory
  | link target => cases hdirectory
  | directory d' =>
    obtain ⟨hne, hplace'⟩ := (h.isTree hinside).mem_places_iff.1 hmem
    obtain ⟨d, hplace, -⟩ := h.symm.at?_directory (h.isTree hinside) hplace'
    have hlisted := hlists _ (hinside.mem_places_iff.2 ⟨hne, hplace⟩) rfl
    obtain ⟨listed, hlisted⟩ := Option.isSome_iff_exists.1 hlisted
    obtain ⟨listed', hlisted', -⟩ := hdisk.directory? htree hlisted
    show (disk'.directory? (source.below place)).isSome
    rw [hlisted']
    rfl

end Disk

end ClassAtlas
