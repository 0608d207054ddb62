import Mathlib
import ClassAtlas.Manifest.Discovery
import ClassAtlas.Proofs.Disk.Relisting
import ClassAtlas.Proofs.Text.Utf8

/-! # What a search finds

    `Directory.HoldsManifest` says which places of a directory are manifests,
    without any searching: by the tree and by the names along the way.  A search
    finds just those places, each once and in the order of the names
    (`Directory.Discovers`), whatever order the system lists directories in.
-/

namespace ClassAtlas

/-! ## Names -/

/-- The bytes of the name are a text's. -/
def Name.IsText (n : Name) : Prop := ∃ s, Utf8.encode s = n

/-- A text that starts with a dot. -/
def Name.IsHidden (n : Name) : Prop := n.IsText ∧ Utf8.encode "." <+: n

/-- One of the directories that builds leave behind. -/
def Name.IsBuild (n : Name) : Prop :=
  n ∈ ["bin", "obj", "target", "node_modules"].map Utf8.encode

/-- A text that ends like a manifest's name. -/
def Name.IsManifest (n : Name) : Prop := n.IsText ∧ Utf8.encode ".decl.json" <:+ n

namespace Manifest

theorem isHiddenName_iff {n : Name} : isHiddenName n ↔ n.IsHidden := by
  have hdot : Utf8.encode "." <+: n ↔ n.head? = some Path.dot := by
    have hbytes : Utf8.encode "." = [Path.dot] := by decide +kernel
    rw [hbytes]
    cases n with
    | nil => simp
    | cons b n => simp [List.cons_prefix_cons, eq_comm]
  unfold isHiddenName Name.IsHidden Name.IsText
  rw [Bool.and_eq_true, Utf8.isSome_decode?_iff, hdot, beq_iff_eq]

theorem isBuildName_iff {n : Name} : isBuildName n ↔ n.IsBuild := List.contains_iff_mem

theorem isManifestName_iff {n : Name} : isManifestName n ↔ n.IsManifest := by
  unfold isManifestName Name.IsManifest Name.IsText
  rw [Bool.and_eq_true, Utf8.isSome_decode?_iff, List.isSuffixOf_iff_suffix]
  rfl

end Manifest

open Manifest

/-! ## Places of manifests -/

/-- The place is a manifest's: a file, not a link, with a manifest's name; nothing
    on the way is hidden, and no directory on the way is left by a build. -/
structure Directory.HoldsManifest (inside : Directory) (place : Place) : Prop where
  file : ∃ contents, inside.at? place = some (.file contents)
  name : ∃ n ∈ place.getLast?, n.IsManifest
  visible : ∀ n ∈ place, ¬ n.IsHidden
  source : ∀ n ∈ place.dropLast, ¬ n.IsBuild

/-- The places of all manifests, in strictly ascending order: names are compared
    byte by byte, places name by name. -/
structure Directory.Discovers (inside : Directory) (places : List Place) : Prop where
  ascending : places.Pairwise (· < ·)
  mem_iff : ∀ place, place ∈ places ↔ inside.HoldsManifest place

/-! ## What a search makes of an entry -/

/-- What a search comes upon at the place of an entry. -/
def Discovery.at? : Place → Entry → Option Discovery
  | [], _ => none
  | [name], .file _ => if isManifestName name && ! isHiddenName name then some .manifest else none
  | [_], .link _ => none
  | [name], .directory _ => if isHiddenName name || isBuildName name then none else some .directory
  | name :: next :: names, e =>
    if isHiddenName name || isBuildName name then none else at? (next :: names) e

theorem Discovery.at?_cons {names : Place} (h : names ≠ []) (name : Name) (e : Entry) :
    at? (name :: names) e
      = if isHiddenName name || isBuildName name then none else at? names e := by
  obtain ⟨next, names, rfl⟩ := List.exists_cons_of_ne_nil h
  rw [at?]

/-- What a search comes upon at a place, with the place. -/
def Discovery.found? (x : Place × Entry) : Option (Place × Discovery) :=
  (at? x.1 x.2).map (x.1, ·)

/-- Below a directory a search finds what it finds from there, or nothing if it
    passes the directory over. -/
theorem Discovery.filterMap_found?_map (name : Name) (inside : Directory) :
    (inside.places.map fun x => (name :: x.1, x.2)).filterMap found?
      = if isHiddenName name || isBuildName name then []
        else (inside.places.filterMap found?).map fun x => (name :: x.1, x.2) := by
  -- a place below has a name of its own, so the directory's is not the last one
  have hbelow : ∀ x ∈ inside.places, at? (name :: x.1) x.2
      = if isHiddenName name || isBuildName name then none else at? x.1 x.2 :=
    fun x hx => at?_cons (Directory.ne_nil_of_mem_places hx) name x.2
  rw [List.filterMap_map]
  split
  · next hskip =>
    rw [List.filterMap_eq_nil_iff]
    intro x hx
    show (at? (name :: x.1) x.2).map _ = none
    rw [hbelow x hx, if_pos hskip]
    rfl
  · next hskip =>
    rw [List.map_filterMap]
    refine List.filterMap_congr fun x hx => ?_
    show (at? (name :: x.1) x.2).map _ = ((at? x.1 x.2).map _).map _
    rw [hbelow x hx, if_neg hskip, Option.map_map]
    rfl

/-- A search looks at every place there is. -/
theorem Directory.discoveries_eq (d : Directory) :
    d.discoveries = d.places.filterMap Discovery.found? := by
  induction d with
  | empty => rfl
  | file name contents rest ih =>
    rw [discoveries, places, List.filterMap_cons, Discovery.found?, Discovery.at?, ih]
    split <;> rfl
  | link name target rest ih =>
    rw [discoveries, places, List.filterMap_cons, Discovery.found?, Discovery.at?, ih]
    rfl
  | directory name inside rest ihInside ih =>
    rw [discoveries, places, List.filterMap_append, List.filterMap_cons,
      Discovery.filterMap_found?_map, Discovery.found?, Discovery.at?, ih, ihInside]
    split <;> rfl

theorem Discovery.at?_eq_manifest_iff {place : Place} {e : Entry} :
    at? place e = some .manifest
      ↔ (∃ contents, e = .file contents) ∧ (∃ n ∈ place.getLast?, n.IsManifest)
        ∧ (∀ n ∈ place, ¬ n.IsHidden) ∧ ∀ n ∈ place.dropLast, ¬ n.IsBuild := by
  -- along the place: only the last name is judged with the entry
  induction place with
  | nil => simp [at?]
  | cons name names ih =>
    by_cases hnames : names = []
    · subst hnames
      cases e with
      | file contents => simp [at?, ← isManifestName_iff, ← isHiddenName_iff]
      | link target => simp [at?]
      | directory inside => simp [at?]
    · have hlast : (name :: names).getLast? = names.getLast? := by
        obtain ⟨next, names, rfl⟩ := List.exists_cons_of_ne_nil hnames
        exact List.getLast?_cons_cons
      rw [at?_cons hnames, hlast, List.dropLast_cons_of_ne_nil hnames, List.forall_mem_cons,
        List.forall_mem_cons, ← isHiddenName_iff, ← isBuildName_iff]
      by_cases hskip : isHiddenName name || isBuildName name
      · rw [if_pos hskip]
        refine iff_of_false nofun ?_
        rintro ⟨-, -, ⟨hvisible, -⟩, hsource, -⟩
        rcases Bool.or_eq_true_iff.1 hskip with hhidden | hbuild
        · exact hvisible hhidden
        · exact hsource hbuild
      · have hvisible : ¬ isHiddenName name := fun h => hskip (by simp [h])
        have hsource : ¬ isBuildName name := fun h => hskip (by simp [h])
        rw [if_neg hskip, ih]
        simp [hvisible, hsource]

theorem Discovery.isDirectory_of_at? {place : Place} {e : Entry}
    (h : at? place e = some .directory) : e.isDirectory := by
  induction place with
  | nil => cases h
  | cons name names ih =>
    by_cases hnames : names = []
    · subst hnames
      cases e with
      | file contents =>
        rw [at?] at h
        split at h <;> cases h
      | link target => cases h
      | directory inside => rfl
    · rw [at?_cons hnames] at h
      split at h
      · cases h
      · exact ih h

namespace Directory

theorem mem_discoveries_iff {d : Directory} {place : Place} {kind : Discovery} :
    (place, kind) ∈ d.discoveries
      ↔ ∃ e, (place, e) ∈ d.places ∧ Discovery.at? place e = some kind := by
  rw [discoveries_eq, List.mem_filterMap]
  constructor
  · rintro ⟨⟨place', e⟩, hmem, hfound⟩
    obtain ⟨kind', hkind, heq⟩ := Option.map_eq_some_iff.1 hfound
    cases heq
    exact ⟨e, hmem, hkind⟩
  · rintro ⟨e, hmem, hkind⟩
    exact ⟨(place, e), hmem, Option.map_eq_some_iff.2 ⟨kind, hkind, rfl⟩⟩

theorem IsTree.mem_discoveries_iff_holdsManifest {d : Directory} (h : d.IsTree) {place : Place} :
    (place, .manifest) ∈ d.discoveries ↔ d.HoldsManifest place := by
  rw [mem_discoveries_iff]
  constructor
  · rintro ⟨e, hmem, hkind⟩
    obtain ⟨⟨contents, rfl⟩, hname, hvisible, hsource⟩ := Discovery.at?_eq_manifest_iff.1 hkind
    exact ⟨⟨contents, (h.mem_places_iff.1 hmem).2⟩, hname, hvisible, hsource⟩
  · rintro ⟨⟨contents, hat⟩, hname, hvisible, hsource⟩
    have hne : place ≠ [] := by
      rintro rfl
      obtain ⟨n, hn, -⟩ := hname
      cases hn
    exact ⟨.file contents, h.mem_places_iff.2 ⟨hne, hat⟩,
      Discovery.at?_eq_manifest_iff.2 ⟨⟨contents, rfl⟩, hname, hvisible, hsource⟩⟩

theorem IsTree.nodup_discoveries {d : Directory} (h : d.IsTree) :
    (d.discoveries.map (·.1)).Nodup := by
  -- a search passes places over and adds none
  have hsublist : ∀ xs : List (Place × Entry),
      ((xs.filterMap Discovery.found?).map (·.1)).Sublist (xs.map (·.1)) := by
    intro xs
    induction xs with
    | nil => exact .slnil
    | cons x xs ih =>
      rw [List.filterMap_cons]
      unfold Discovery.found?
      cases Discovery.at? x.1 x.2 with
      | none => exact ih.cons x.1
      | some kind => exact ih.cons_cons x.1
  rw [discoveries_eq]
  exact h.nodup_places.sublist (hsublist d.places)

end Directory

/-! ## The order of what is found -/

theorem pairwise_sortByPlace (found : List (Place × Discovery)) :
    (sortByPlace found).Pairwise (fun a b => a.1 ≤ b.1) := by
  have htrans : ∀ a b c : Place × Discovery, decide (a.1 ≤ b.1) → decide (b.1 ≤ c.1) →
      decide (a.1 ≤ c.1) := by
    intro a b c hab hbc
    exact decide_eq_true (List.le_trans (of_decide_eq_true hab) (of_decide_eq_true hbc))
  have htotal : ∀ a b : Place × Discovery, decide (a.1 ≤ b.1) || decide (b.1 ≤ a.1) := by
    intro a b
    rw [Bool.or_eq_true, decide_eq_true_iff, decide_eq_true_iff]
    exact List.le_total a.1 b.1
  exact (List.pairwise_mergeSort htrans htotal found).imp fun h => of_decide_eq_true h

/-- The places of the manifests that were found, in order. -/
def manifestPlaces (found : List (Place × Discovery)) : List Place :=
  ((sortByPlace found).filter (·.2 = .manifest)).map (·.1)

theorem perm_manifestPlaces (found : List (Place × Discovery)) :
    ((found.filter (·.2 = .manifest)).map (·.1)).Perm (manifestPlaces found) :=
  ((List.mergeSort_perm found _).symm.filter _).map _

theorem ascending_manifestPlaces {found : List (Place × Discovery)}
    (h : (found.map (·.1)).Nodup) : (manifestPlaces found).Pairwise (· < ·) := by
  have hperm : (sortByPlace found).Perm found := List.mergeSort_perm found _
  have hnodup : ((sortByPlace found).map (·.1)).Nodup := (hperm.map _).nodup_iff.2 h
  -- in order and never the same twice is strictly in order
  have hsorted : ((sortByPlace found).map (·.1)).Pairwise (· ≤ ·) :=
    List.pairwise_map.2 (pairwise_sortByPlace found)
  have hstrict : ((sortByPlace found).map (·.1)).Pairwise (· < ·) :=
    (hsorted.and hnodup).imp fun h => Std.lt_of_le_of_ne h.1 h.2
  exact hstrict.sublist (List.filter_sublist.map _)

/-- What a search comes upon, put in order. -/
theorem Directory.IsTree.discovers_of_perm {d : Directory} (h : d.IsTree) {places : List Place}
    (hascending : places.Pairwise (· < ·))
    (hperm : ((d.discoveries.filter (·.2 = .manifest)).map (·.1)).Perm places) :
    d.Discovers places where
  ascending := hascending
  mem_iff place := by
    rw [← h.mem_discoveries_iff_holdsManifest, ← hperm.mem_iff]
    simp

theorem Directory.IsTree.discovers {d : Directory} (h : d.IsTree) :
    d.Discovers (manifestPlaces d.discoveries) :=
  h.discovers_of_perm (ascending_manifestPlaces h.nodup_discoveries)
    (perm_manifestPlaces d.discoveries)

theorem Directory.Discovers.nodup {d : Directory} {places : List Place} (h : d.Discovers places) :
    places.Nodup := by
  refine h.ascending.imp ?_
  rintro place _ hlt rfl
  exact List.lt_irrefl place hlt

/-- There is only one such list. -/
theorem Directory.Discovers.unique {d : Directory} {ps qs : List Place} (hp : d.Discovers ps)
    (hq : d.Discovers qs) : ps = qs := by
  have hperm : ps.Perm qs := (List.perm_ext_iff_of_nodup hp.nodup hq.nodup).2 fun place =>
    (hp.mem_iff place).trans (hq.mem_iff place).symm
  exact hperm.eq_of_pairwise (fun _ _ _ _ hab hba => absurd hba (List.lt_asymm hab)) hp.ascending
    hq.ascending

/-- Different manifests have different paths. -/
theorem Directory.Discovers.nodup_paths {d : Directory} {places : List Place}
    (h : d.Discovers places) (htree : d.IsTree) (source : Path) :
    (places.map source.below).Nodup := by
  have hproper : ∀ place ∈ places, ∀ n ∈ place, n.IsProper := by
    intro place hmem
    obtain ⟨contents, hat⟩ := ((h.mem_iff place).1 hmem).file
    exact htree.isProper_of_at? hat
  refine List.Nodup.map_on (fun p hp q hq heq => ?_) h.nodup
  exact Path.below_injective (hproper p hp) (hproper q hq) heq

/-- What a place holds does not hang on the order of listings. -/
theorem Directory.HoldsManifest.relisted {inside inside' : Directory} {place : Place}
    (h : inside.HoldsManifest place) (hlisted : inside.Relisted inside') (htree : inside.IsTree) :
    inside'.HoldsManifest place := by
  obtain ⟨contents, hat⟩ := h.file
  have hfound := hlisted.at? htree place
  rw [hat] at hfound
  obtain ⟨e', hat', he⟩ := hfound.of_some
  cases he
  exact ⟨⟨contents, hat'⟩, h.name, h.visible, h.source⟩

theorem Directory.Discovers.relisted {inside inside' : Directory} {places : List Place}
    (h : inside.Discovers places) (hlisted : inside.Relisted inside') (htree : inside.IsTree) :
    inside'.Discovers places where
  ascending := h.ascending
  mem_iff place := by
    rw [h.mem_iff]
    exact ⟨fun hp => hp.relisted hlisted htree,
      fun hp => hp.relisted hlisted.symm (hlisted.isTree htree)⟩

namespace Disk

/-! ## Searching -/

theorem exists_list_of_isDirectory {disk : Disk} {p : Path} (h : disk.isDirectory p) :
    ∃ inside, disk.list p = .ok inside := by
  obtain ⟨inside, hinside⟩ := Option.isSome_iff_exists.1 h
  rw [list, directory?_eq_some_iff_entry.1 hinside]
  exact ⟨inside, rfl⟩

/-- A search that can list every directory it comes to finds every manifest. -/
theorem search_eq {disk : Disk} {found : List (Path × Discovery)}
    (h : ∀ x ∈ found, x.2 = .directory → disk.isDirectory x.1) :
    disk.search found = { found := (found.filter (·.2 = .manifest)).map (·.1) } := by
  induction found with
  | nil => rfl
  | cons x found ih =>
    obtain ⟨hx, hfound⟩ := List.forall_mem_cons.1 h
    obtain ⟨path, kind⟩ := x
    cases kind with
    | manifest =>
      rw [search, ih hfound]
      rfl
    | directory =>
      obtain ⟨inside, hinside⟩ := exists_list_of_isDirectory (hx rfl)
      rw [search, hinside, ih hfound]
      rfl

/-- Every directory that the search comes to can be listed by its path. -/
def ListsFound (disk : Disk) (source : Path) (inside : Directory) : Prop :=
  ∀ place, (place, .directory) ∈ inside.discoveries → disk.isDirectory (source.below place)

theorem ListsBelow.listsFound {disk : Disk} {source : Path} {inside : Directory}
    (h : disk.ListsBelow source inside) : disk.ListsFound source inside := by
  intro place hfound
  obtain ⟨e, hplace, hkind⟩ := Directory.mem_discoveries_iff.1 hfound
  exact h _ hplace (Discovery.isDirectory_of_at? hkind)

theorem searchBelow_eq {disk : Disk} {source : Path} {inside : Directory}
    (hlists : disk.ListsFound source inside) : disk.searchBelow source inside
      = { found := (manifestPlaces inside.discoveries).map source.below } := by
  unfold searchBelow
  rw [search_eq]
  · -- the paths are those of the places, in the same order
    rw [List.filter_map, List.map_map, manifestPlaces, List.map_map]
    rfl
  · intro x hx hdirectory
    obtain ⟨⟨place, kind⟩, hmem, rfl⟩ := List.mem_map.1 hx
    cases hdirectory
    exact hlists place (List.mem_mergeSort.1 hmem)

/-- A search that fails nowhere has listed every directory. -/
theorem isDirectory_of_search {disk : Disk} {found : List (Path × Discovery)}
    (h : (disk.search found).failure? = none) :
    ∀ x ∈ found, x.2 = .directory → disk.isDirectory x.1 := by
  induction found with
  | nil => exact nofun
  | cons x found ih =>
    obtain ⟨path, kind⟩ := x
    cases kind with
    | manifest => exact List.forall_mem_cons.2 ⟨nofun, ih h⟩
    | directory =>
      rw [search] at h
      split at h
      · next inside hlist =>
        refine List.forall_mem_cons.2 ⟨fun _ => ?_, ih h⟩
        unfold list at hlist
        split at hlist
        · next hentry =>
          rw [isDirectory, directory?_eq_some_iff_entry.2 hentry]
          rfl
        · cases hlist
        · cases hlist
      · cases h

/-- The paths of the manifests, in the order of their places; they are found just
    if every directory on the way can be listed. -/
theorem manifests_eq_ok_iff {disk : Disk} {source : Path} {inside : Directory} {paths : List Path}
    (htree : inside.IsTree) (hsource : disk.directory? source = some inside) :
    disk.manifests source = .ok paths
      ↔ disk.ListsFound source inside
        ∧ ∃ places, inside.Discovers places ∧ paths = places.map source.below := by
  have hfound : (disk.searchBelow source inside).failure? = none →
      disk.manifests source = .ok (disk.searchBelow source inside).found := by
    intro hsearch
    rw [manifests, hsource]
    simp only [hsearch]
  constructor
  · intro h
    cases hsearch : (disk.searchBelow source inside).failure? with
    | some failure =>
      rw [manifests, hsource] at h
      simp only [hsearch] at h
      cases h
    | none =>
      have hlists : disk.ListsFound source inside := by
        intro place hplace
        apply isDirectory_of_search hsearch (source.below place, .directory) _ rfl
        exact List.mem_map.2 ⟨_, List.mem_mergeSort.2 hplace, rfl⟩
      rw [hfound hsearch, searchBelow_eq hlists] at h
      cases h
      exact ⟨hlists, _, htree.discovers, rfl⟩
  · rintro ⟨hlists, places, hplaces, rfl⟩
    have hsearch := searchBelow_eq hlists
    rw [hfound (by rw [hsearch]), hsearch, hplaces.unique htree.discovers]

theorem manifests_eq {disk : Disk} {source : Path} {inside : Directory} {places : List Place}
    (htree : inside.IsTree) (hsource : disk.directory? source = some inside)
    (hlists : disk.ListsBelow source inside) (hplaces : inside.Discovers places) :
    disk.manifests source = .ok (places.map source.below) :=
  (manifests_eq_ok_iff htree hsource).2 ⟨hlists.listsFound, places, hplaces, rfl⟩

/-- The manifests of a directory: a search returns just the paths of the files that
    are manifests, each once and in ascending order, whatever order the system
    lists directories in. -/
theorem manifests_exact_and_ordered {disk : Disk} (htree : disk.top.IsTree) {source : Path}
    {inside : Directory} (hsource : disk.directory? source = some inside)
    (hlists : disk.ListsBelow source inside) :
    ∃ places, disk.manifests source = .ok (places.map source.below)
      ∧ inside.Discovers places ∧ (places.map source.below).Nodup
      ∧ ∀ disk', disk.Relisted disk' → disk'.manifests source = disk.manifests source := by
  have hinside : inside.IsTree := isTree_of_directory? htree hsource
  refine ⟨manifestPlaces inside.discoveries, manifests_eq hinside hsource hlists hinside.discovers,
    hinside.discovers, hinside.discovers.nodup_paths hinside source, ?_⟩
  -- both disks have the same manifests, and one list of them at most is in order
  intro disk' hdisk
  obtain ⟨inside', hsource', hlisted⟩ := hdisk.directory? htree hsource
  have hinside' : inside'.IsTree := hlisted.isTree hinside
  have hlists' : disk'.ListsBelow source inside' := hlists.relisted hdisk htree hlisted hinside
  have hplaces' := hinside.discovers.relisted hlisted hinside
  rw [manifests_eq hinside' hsource' hlists' hplaces',
    manifests_eq hinside hsource hlists hinside.discovers]

/-- Sources in an order of no kind.  Among the manifests there are a link, a hidden
    file, a file whose name is no text, and one in a directory that a build left. -/
def scatteredSources : Directory :=
  .file (Utf8.encode "b.decl.json") []
    (.directory (Utf8.encode "a-b") (.file (Utf8.encode "x.decl.json") [] .empty)
      (.link (Utf8.encode "l.decl.json") (.ofString "b.decl.json")
        (.directory (Utf8.encode "a")
          (.directory [0xFF] (.file (Utf8.encode "x.decl.json") [] .empty)
            (.file (Utf8.encode "y.decl.json") []
              (.file (Utf8.encode ".y.decl.json") []
                (.file (0xFF :: Utf8.encode ".decl.json") []
                  (.directory (Utf8.encode "obj") (.file (Utf8.encode "x.decl.json") [] .empty)
                    .empty)))))
          .empty)))

/-- The sources in a directory with a build's name, which does not matter for the
    directory that is searched. -/
def scatteredDisk : Disk where
  top := .directory (Utf8.encode "bin") scatteredSources .empty

/-- All that is in `a` comes before what is in `a-b`. -/
def scatteredPlaces : List Place :=
  [[Utf8.encode "a", Utf8.encode "y.decl.json"],
    [Utf8.encode "a", [0xFF], Utf8.encode "x.decl.json"],
    [Utf8.encode "a-b", Utf8.encode "x.decl.json"], [Utf8.encode "b.decl.json"]]

theorem manifests_exact_and_ordered_scattered :
    scatteredDisk.top.IsTree
      ∧ scatteredDisk.directory? (.ofString "bin/") = some scatteredSources
      ∧ scatteredDisk.ListsBelow (.ofString "bin/") scatteredSources
      ∧ ∀ disk', scatteredDisk.Relisted disk' → disk'.manifests (.ofString "bin/")
        = .ok (scatteredPlaces.map (Path.ofString "bin/").below) := by
  have htree : scatteredDisk.top.IsTree := by decide +kernel
  have hsource : scatteredDisk.directory? (.ofString "bin/") = some scatteredSources := by cbv
  have hlists : scatteredDisk.ListsBelow (.ofString "bin/") scatteredSources :=
    forall_places_of_all (by cbv)
  have hsorted : scatteredSources.Discovers scatteredPlaces := by
    have hinside : scatteredSources.IsTree := by decide +kernel
    exact hinside.discovers_of_perm (by decide +kernel) (by decide +kernel)
  refine ⟨htree, hsource, hlists, ?_⟩
  intro disk' hdisk
  obtain ⟨places, hmanifests, hplaces, -, hlisted⟩ :=
    manifests_exact_and_ordered htree hsource hlists
  rw [hlisted disk' hdisk, hmanifests, hplaces.unique hsorted]

end Disk

end ClassAtlas
