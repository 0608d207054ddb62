import ClassAtlas.Proofs.Manifest.Searching

/-! # Hidden entries

    A search never looks into a directory, and never returns a file, whose name
    is a text that starts with a dot (`Disk.manifests_visible`).

    The name has to be a text for that.  A dot in front of bytes that are no text
    hides nothing, so a search does go into such directories
    (`Disk.not_forall_manifests_undotted`).
-/

namespace ClassAtlas

/-- A dot is the first byte of the name, whether the name is a text or not. -/
def Name.IsDotted (n : Name) : Prop := Utf8.encode "." <+: n

instance (n : Name) : Decidable n.IsDotted := inferInstanceAs (Decidable (_ <+: _))

/-- The names of the path that come after those of a directory above. -/
def Path.namesBelow (source p : Path) : List Name := p.names.drop source.names.length

theorem Path.namesBelow_below (source : Path) {place : Place} (h : ∀ n ∈ place, n.IsProper) :
    source.namesBelow (source.below place) = place := by
  rw [namesBelow, names_below source h, List.drop_left]

/-! ## What a search comes upon -/

/-- No name on the way to what a search comes upon is hidden, be it a manifest or
    a directory that is searched too. -/
theorem Discovery.visible_of_at? {place : Place} {e : Entry} {kind : Discovery}
    (h : at? place e = some kind) : ∀ n ∈ place, ¬ n.IsHidden := by
  induction place with
  | nil => exact nofun
  | cons name names ih =>
    by_cases hnames : names = []
    · -- the last name is judged together with the entry
      subst hnames
      intro n hn
      have hname : n = name := by simpa using hn
      subst hname
      rw [← Manifest.isHiddenName_iff]
      intro hhidden
      cases e <;> simp [at?, hhidden] at h
    · rw [at?_cons hnames] at h
      split at h
      · cases h
      · next hskip =>
        have hname : ¬ Manifest.isHiddenName name := by
          intro hhidden
          exact hskip (by simp [hhidden])
        rw [List.forall_mem_cons, ← Manifest.isHiddenName_iff]
        exact ⟨hname, ih h⟩

/-- A name that is visible in spite of its dot is no text. -/
theorem Name.IsDotted.not_isText {n : Name} (h : n.IsDotted) (hvisible : ¬ n.IsHidden) :
    ¬ n.IsText := by
  intro htext
  exact hvisible ⟨htext, h⟩

namespace Disk

/-! ## Searching -/

/-- A search goes into no directory with a dotted text for a name, and returns no
    path with such a name below the source: wherever a dot comes first, what
    follows makes the name no text. -/
theorem manifests_visible {disk : Disk} (htree : disk.top.IsTree) {source : Path}
    {inside : Directory} (hsource : disk.directory? source = some inside) :
    (∀ found ∈ inside.discoveries, ∀ n ∈ found.1, n.IsDotted → ¬ n.IsText)
      ∧ ∀ paths, disk.manifests source = .ok paths →
          ∀ p ∈ paths, ∀ n ∈ source.namesBelow p, n.IsDotted → ¬ n.IsText := by
  have hinside : inside.IsTree := isTree_of_directory? htree hsource
  constructor
  · intro found hfound n hn hdotted
    obtain ⟨e, -, hkind⟩ := Directory.mem_discoveries_iff.1 hfound
    exact hdotted.not_isText (Discovery.visible_of_at? hkind n hn)
  · intro paths hpaths p hp n hn hdotted
    obtain ⟨-, places, hplaces, rfl⟩ := (manifests_eq_ok_iff hinside hsource).1 hpaths
    obtain ⟨place, hplace, rfl⟩ := List.mem_map.1 hp
    have hholds := (hplaces.mem_iff place).1 hplace
    -- the names below the source are those of the place
    obtain ⟨contents, hat⟩ := hholds.file
    rw [source.namesBelow_below (hinside.isProper_of_at? hat)] at hn
    exact hdotted.not_isText (hholds.visible n hn)

/-- The name of a directory: a dot, and a byte that is in no text. -/
def brokenDotName : Name := Utf8.encode "." ++ [0xFF]

/-- A directory that is hidden and one that has a dot in front but is not. -/
def dottedSources : Directory :=
  .directory (Utf8.encode ".cache") (.file (Utf8.encode "a.decl.json") [] .empty)
    (.directory brokenDotName (.file (Utf8.encode "a.decl.json") [] .empty) .empty)

def dottedDisk : Disk where
  top := dottedSources

theorem manifests_dottedDisk :
    dottedDisk.top.IsTree ∧ dottedDisk.directory? (.ofString "/") = some dottedSources
      ∧ dottedDisk.manifests (.ofString "/")
        = .ok [(Path.ofString "/").below [brokenDotName, Utf8.encode "a.decl.json"]] := by
  have htree : dottedDisk.top.IsTree := by decide
  have hsource : dottedDisk.directory? (.ofString "/") = some dottedSources := by cbv
  have hlists : dottedDisk.ListsBelow (.ofString "/") dottedSources :=
    forall_places_of_all (by cbv)
  have hplaces : dottedSources.Discovers [[brokenDotName, Utf8.encode "a.decl.json"]] :=
    Directory.IsTree.discovers_of_perm htree (by decide) (by decide +kernel)
  exact ⟨htree, hsource, manifests_eq htree hsource hlists hplaces⟩

/-- One manifest is returned, and the dotted name above it is no text. -/
theorem manifests_visible_broken_name :
    dottedDisk.top.IsTree ∧ dottedDisk.directory? (.ofString "/") = some dottedSources
      ∧ ∃ p, dottedDisk.manifests (.ofString "/") = .ok [p]
        ∧ brokenDotName ∈ (Path.ofString "/").namesBelow p
        ∧ brokenDotName.IsDotted ∧ ¬ brokenDotName.IsText := by
  obtain ⟨htree, hsource, hpaths⟩ := manifests_dottedDisk
  have hmem : brokenDotName ∈ (Path.ofString "/").namesBelow
      ((Path.ofString "/").below [brokenDotName, Utf8.encode "a.decl.json"]) := by decide
  have hdotted : brokenDotName.IsDotted := by decide
  refine ⟨htree, hsource, _, hpaths, hmem, hdotted, ?_⟩
  exact (manifests_visible htree hsource).2 _ hpaths _ List.mem_cons_self _ hmem hdotted

/-- A search can return a path with a dotted name below the source. -/
theorem not_forall_manifests_undotted :
    ¬ ∀ (disk : Disk) (source : Path) (paths : List Path), disk.top.IsTree →
        disk.manifests source = .ok paths →
        ∀ p ∈ paths, ∀ n ∈ source.namesBelow p, ¬ n.IsDotted := by
  intro h
  obtain ⟨htree, -, hpaths⟩ := manifests_dottedDisk
  have hundotted := h _ _ _ htree hpaths _ List.mem_cons_self brokenDotName (by decide)
  exact hundotted (by decide)

end Disk

end ClassAtlas
