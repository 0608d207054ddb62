import ClassAtlas.Proofs.Disk.Putting
import ClassAtlas.Proofs.Disk.Relisting
import ClassAtlas.Proofs.Path.Nearest
import ClassAtlas.Proofs.ProjectRoot.Containment

/-! # The nearest marker

    Of the directories whose path begins the absolute start, the root is the
    longest with a version control marker, and only if there is none the longest
    with a project file (`Disk.resolveRoot_nearest`).  A root that was found is
    found again from itself and from all paths between it and the start.

    Both properties belong to a directory and not to how its path is spelled: a
    path may become too long by one more slash, but not where an entry of the
    directory is reached.
-/

namespace ClassAtlas

/-- Absolute paths are the same if they take the same steps. -/
theorem Path.sameAs_of_steps {p q : Path} (hp : p.isAbsolute) (hq : q.isAbsolute)
    (h : p.steps = q.steps) : p.sameAs q := by
  rw [sameAs, opensHere, opensHere, cut_fst_of_isAbsolute hp, cut_fst_of_isAbsolute hq, hp, hq, h]
  simp

/-! ## Names of project files -/

theorem Name.extension?_eq_some_iff {n : Name} {ext : Bytes} :
    n.extension? = some ext ↔ Path.dot ∉ ext ∧ ∃ stem, stem ≠ [] ∧ n = stem ++ Path.dot :: ext := by
  rw [Name.extension?, List.span_eq_takeWhile_dropWhile]
  constructor
  · intro h
    split at h
    · cases h
    · cases h
    · next back d c rest hcut =>
      cases h
      obtain ⟨htake, hdrop⟩ := Prod.mk.inj hcut
      have hback : Path.dot ∉ back := by
        rw [← htake]
        intro hmem
        simpa using List.mem_takeWhile_imp hmem
      have hd : d = Path.dot := by
        have hhead := List.head_dropWhile_not (· != Path.dot) (l := n.reverse) (by simp [hdrop])
        simpa [hdrop] using hhead
      have hname : n.reverse = back ++ d :: c :: rest := by
        rw [← htake, ← hdrop, List.takeWhile_append_dropWhile]
      refine ⟨by simpa using hback, (c :: rest).reverse, by simp, ?_⟩
      rw [← List.reverse_inj, hname, hd]
      simp
  · rintro ⟨hdot, stem, hstem, rfl⟩
    have hpass : ∀ b ∈ ext.reverse, (b != Path.dot) = true := by
      intro b hb
      rw [bne_iff_ne]
      rintro rfl
      exact hdot (List.mem_reverse.1 hb)
    have hname : (stem ++ Path.dot :: ext).reverse = ext.reverse ++ Path.dot :: stem.reverse := by
      simp
    rw [hname, List.takeWhile_append_of_pos hpass, List.dropWhile_append_of_pos hpass]
    obtain ⟨c, rest, hrest⟩ := List.exists_cons_of_ne_nil (mt List.reverse_eq_nil_iff.1 hstem)
    rw [hrest]
    simp

namespace Disk

/-- The name ends in a dot and one of the extensions, and something stands in
    front of the dot. -/
def IsProjectName (extensions : List String) (n : Name) : Prop :=
  ∃ ext ∈ extensions, Path.dot ∉ Utf8.encode ext
    ∧ ∃ stem, stem ≠ [] ∧ n = stem ++ Path.dot :: Utf8.encode ext

theorem hasExtension_iff {extensions : List String} {n : Name} :
    hasExtension extensions n ↔ IsProjectName extensions n := by
  unfold hasExtension
  constructor
  · intro h
    split at h
    · next ext hext =>
      obtain ⟨e, he, rfl⟩ := List.mem_map.1 (List.contains_iff_mem.1 h)
      exact ⟨e, he, Name.extension?_eq_some_iff.1 hext⟩
    · cases h
  · rintro ⟨ext, hmem, hext⟩
    rw [Name.extension?_eq_some_iff.2 hext]
    exact List.contains_iff_mem.2 (List.mem_map_of_mem hmem)

/-! ## Markers -/

/-- The directory has an entry `.git`; a link that leads nowhere does not count. -/
def HoldsMarker (disk : Disk) (dir : Path) : Prop :=
  ∃ e, disk.entry (dir.child (Utf8.encode ".git")) = .ok e

/-- The directory lists the name of a project file, and what has the name is a
    file or leads to one. -/
def HoldsProject (disk : Disk) (extensions : List String) (dir : Path) : Prop :=
  ∃ inside n contents, disk.entry dir = .ok (.directory inside) ∧ n ∈ inside.names
    ∧ IsProjectName extensions n ∧ disk.entry (dir.child n) = .ok (.file contents)

theorem hasMarker_iff {disk : Disk} (dir : Path) : disk.hasMarker dir ↔ disk.HoldsMarker dir := by
  have hjoin : dir.join RootRule.versionControl = dir.child (Utf8.encode ".git") := rfl
  rw [hasMarker, exists?, hjoin, HoldsMarker]
  cases disk.entry (dir.child (Utf8.encode ".git")) <;> simp

theorem isFile_iff {disk : Disk} {p : Path} :
    disk.isFile p ↔ ∃ contents, disk.entry p = .ok (.file contents) := by
  unfold isFile contents?
  split
  · next contents h => simp [h]
  · next hnot => simpa using hnot

theorem hasProjectFile_iff {disk : Disk} {extensions : List String} (dir : Path) :
    disk.hasProjectFile extensions dir ↔ disk.HoldsProject extensions dir := by
  unfold hasProjectFile
  constructor
  · intro h
    split at h
    · next inside hinside =>
      obtain ⟨entry, hmem, hentry⟩ := List.any_eq_true.1 h
      obtain ⟨hname, hfile⟩ := Bool.and_eq_true_iff.1 hentry
      obtain ⟨contents, hcontents⟩ := isFile_iff.1 hfile
      exact ⟨inside, entry.1, contents, directory?_eq_some_iff_entry.1 hinside,
        List.mem_map_of_mem hmem, hasExtension_iff.1 hname, hcontents⟩
    · cases h
  · rintro ⟨inside, n, contents, hinside, hmem, hname, hcontents⟩
    obtain ⟨entry, hentry, rfl⟩ := List.mem_map.1 hmem
    rw [directory?_eq_some_iff_entry.2 hinside]
    exact List.any_eq_true.2 ⟨entry, hentry, Bool.and_eq_true_iff.2
      ⟨hasExtension_iff.2 hname, isFile_iff.2 ⟨contents, hcontents⟩⟩⟩

/-! ## Other spellings of a directory -/

/-- Two paths of one directory, which show the same entries below it. -/
structure Respelled (disk : Disk) (p p' : Path) : Prop where
  ne_empty : p' ≠ .empty
  isAbsolute : p'.isAbsolute = p.isAbsolute
  names : p'.names = p.names
  child : ∀ n e, Path.slash ∉ n → n ≠ [] → disk.entry (p.child n) = .ok e →
    disk.entry (p'.child n) = .ok e

section

variable {disk : Disk} {p p' : Path} (h : disk.Respelled p p')

include h

theorem HoldsMarker.respelled (hp : disk.HoldsMarker p) : disk.HoldsMarker p' := by
  obtain ⟨e, he⟩ := hp
  exact ⟨e, h.child _ _ (by decide +kernel) (by decide +kernel) he⟩

theorem HoldsProject.respelled (htree : disk.top.IsTree) {extensions : List String}
    (hp : disk.HoldsProject extensions p) : disk.HoldsProject extensions p' := by
  obtain ⟨inside, n, contents, hinside, hmem, hname, hfile⟩ := hp
  have hdirectory := directory?_eq_some_iff_entry.2 hinside
  obtain ⟨e, he⟩ := Directory.mem_names_iff_exists_find?.1 hmem
  obtain ⟨hproper, -⟩ := (isTree_of_directory? htree hdirectory).find? he
  have hfile' := h.child n _ hproper.2.2.2 hproper.1 hfile
  -- the walk to the file passes the directory, whatever stands at the end of its path
  have hrel := Path.isAbsolute_mk_eq_false hproper.2.2.2
  have hn : (Path.mk n).names ≠ [] := by
    simp [Path.names_eq, Path.segments_of_slash_not_mem hproper.2.2.2, hproper.1]
  obtain ⟨hwalkable, place', inside', hway⟩ := leads_of_join h.ne_empty hrel hn hfile'
  obtain ⟨place, hreach⟩ := entry_eq_ok_iff.1 hinside
  have hleads := (reach_eq_ok_iff.1 hreach).2
  have hsame := hway p.endsInSlash
  rw [h.names, origin, h.isAbsolute, ← origin] at hsame
  cases hsame.walk_eq.symm.trans hleads.walk_eq
  exact ⟨inside, n, contents, entry_eq_ok_iff.2 ⟨_, reach_eq_ok_iff.2 ⟨hwalkable, hway _⟩⟩, hmem,
    hname, hfile'⟩

end

theorem respelled_child_nil {disk : Disk} {p : Path} (hp : p.isAbsolute) :
    disk.Respelled p (p.child []) ∧ disk.Respelled (p.child []) p := by
  have hne := Path.bytes_ne_nil_of_isAbsolute hp
  have habs : (p.child []).isAbsolute = p.isAbsolute := Path.isAbsolute_child p List.not_mem_nil
  have hnames : (p.child []).names = p.names := by
    have hnil : (Path.mk []).names = [] := rfl
    rw [Path.child, Path.names_join _ _ rfl, hnil, List.append_nil]
  have hchild : ∀ n, Path.slash ∉ n → (p.child []).child n = p.child n := fun n hn =>
    Path.join_child_nil hne (Path.isAbsolute_mk_eq_false hn)
  refine ⟨⟨?_, habs, hnames, ?_⟩, ⟨?_, habs.symm, hnames.symm, ?_⟩⟩
  · rintro hempty
    rw [hp, hempty] at habs
    cases habs
  · intro n e hn _ he
    rwa [hchild n hn]
  · rintro rfl
    exact hne rfl
  · intro n e hn _ he
    rwa [← hchild n hn]

theorem Leads.length_le {top : Directory} {links : Nat} {place : Place} {n : Name} {slash : Bool}
    {reached : Reached} (h : Leads top .visit links place [n] slash reached) :
    n.length ≤ nameLimit := by
  cases h with
  | here => decide
  | up => decide
  | free hname => exact hname.length
  | link hname => exact hname.length
  | follow hname => exact hname.length
  | enter hname => exact hname.length

/-- One slash in front of a single name leads where two lead. -/
theorem entry_child_of_root {disk : Disk} {root root' : Path} (hroot : root.IsRoot)
    (hroot' : root'.IsRoot) {n : Name} (hslash : Path.slash ∉ n) (hne : n ≠ []) {e : Entry}
    (h : disk.entry (root.child n) = .ok e) : disk.entry (root'.child n) = .ok e := by
  have hbytes : ∀ {r : Path}, r.IsRoot → (r.child n).bytes = r.bytes ++ n := by
    intro r hr
    rw [Path.child, Path.join, if_neg (by simp [Path.isAbsolute_mk_eq_false hslash]),
      if_pos (.inr hr.endsInSlash)]
  have hnames : ∀ {r : Path}, r.IsRoot → (r.child n).names = [n] := by
    intro r hr
    rw [Path.names_child _ hslash hne]
    rcases hr with rfl | rfl <;> rfl
  have horigin : ∀ {r : Path}, r.IsRoot → origin disk.cwd (r.child n) = [] := by
    intro r hr
    rw [origin, Path.isAbsolute_child _ hslash, if_pos hr.isAbsolute]
  have hends : ∀ {r : Path}, (r.child n).endsInSlash = false := fun {r} =>
    Bool.eq_false_iff.2 (Path.not_endsInSlash_child r hslash hne)
  obtain ⟨place, hreach⟩ := entry_eq_ok_iff.1 h
  obtain ⟨hwalkable, hleads⟩ := reach_eq_ok_iff.1 hreach
  rw [hnames hroot, horigin hroot, hends] at hleads
  refine entry_eq_ok_iff.2 ⟨place, reach_eq_ok_iff.2 ⟨⟨?_, ?_, ?_⟩, ?_⟩⟩
  · have hzero := hwalkable.zero
    rw [hbytes hroot] at hzero
    rw [hbytes hroot']
    rcases hroot with rfl | rfl <;> rcases hroot' with rfl | rfl <;> simpa [Path.top] using hzero
  · intro hempty
    have hnil := congrArg Path.bytes hempty
    rw [hbytes hroot'] at hnil
    exact hroot'.bytes_ne_nil (List.append_eq_nil_iff.1 hnil).1
  · have hlength := hleads.length_le
    have hshort : root'.bytes.length ≤ 2 := by
      rcases hroot' with rfl | rfl <;> decide
    rw [hbytes hroot', List.length_append]
    unfold pathLimit
    unfold nameLimit at hlength
    omega
  · rwa [hnames hroot', horigin hroot', hends]

theorem respelled_root {disk : Disk} {root root' : Path} (hroot : root.IsRoot)
    (hroot' : root'.IsRoot) : disk.Respelled root root' where
  ne_empty := fun hempty => hroot'.bytes_ne_nil (congrArg Path.bytes hempty)
  isAbsolute := by rw [hroot.isAbsolute, hroot'.isAbsolute]
  names := by rcases hroot with rfl | rfl <;> rcases hroot' with rfl | rfl <;> rfl
  child := fun _ _ hslash hne h => entry_child_of_root hroot hroot' hslash hne h

theorem ofDirectories_holdsMarker (disk : Disk) : Path.OfDirectories disk.HoldsMarker where
  closed := fun _ hp => ⟨HoldsMarker.respelled (respelled_child_nil hp).2,
    HoldsMarker.respelled (respelled_child_nil hp).1⟩
  top := ⟨HoldsMarker.respelled (respelled_root (.inr rfl) (.inl rfl)),
    HoldsMarker.respelled (respelled_root (.inl rfl) (.inr rfl))⟩

theorem ofDirectories_holdsProject {disk : Disk} (htree : disk.top.IsTree)
    (extensions : List String) : Path.OfDirectories (disk.HoldsProject extensions) where
  closed := fun _ hp => ⟨HoldsProject.respelled (respelled_child_nil hp).2 htree,
    HoldsProject.respelled (respelled_child_nil hp).1 htree⟩
  top := ⟨HoldsProject.respelled (respelled_root (.inr rfl) (.inl rfl)) htree,
    HoldsProject.respelled (respelled_root (.inl rfl) (.inr rfl)) htree⟩

/-! ## Listing in another order -/

theorem Relisted.entry {disk disk' : Disk} (h : disk.Relisted disk') (htree : disk.top.IsTree)
    {p : Path} {e : Entry} (he : disk.entry p = .ok e) :
    ∃ e', disk'.entry p = .ok e' ∧ e.Relisted e' := by
  obtain ⟨place, hreach⟩ := entry_eq_ok_iff.1 he
  obtain ⟨hwalkable, hleads⟩ := reach_eq_ok_iff.1 hreach
  obtain ⟨reached', hleads', hsame⟩ := hleads.relisted h.top htree
  cases hsame with
  | entry _ hentry =>
    rw [← h.cwd] at hleads'
    exact ⟨_, entry_eq_ok_iff.2 ⟨place, reach_eq_ok_iff.2 ⟨hwalkable, hleads'⟩⟩, hentry⟩

theorem Relisted.symm {disk disk' : Disk} (h : disk.Relisted disk') : disk'.Relisted disk :=
  ⟨h.top.symm, h.cwd.symm⟩

theorem HoldsMarker.relisted {disk disk' : Disk} (h : disk.Relisted disk') (htree : disk.top.IsTree)
    {dir : Path} (hdir : disk.HoldsMarker dir) : disk'.HoldsMarker dir := by
  obtain ⟨e, he⟩ := hdir
  obtain ⟨e', he', -⟩ := h.entry htree he
  exact ⟨e', he'⟩

theorem HoldsProject.relisted {disk disk' : Disk} (h : disk.Relisted disk')
    (htree : disk.top.IsTree) {extensions : List String} {dir : Path}
    (hdir : disk.HoldsProject extensions dir) : disk'.HoldsProject extensions dir := by
  obtain ⟨inside, n, contents, hinside, hmem, hname, hfile⟩ := hdir
  obtain ⟨e, he, hsame⟩ := h.entry htree hinside
  obtain ⟨f, hf, hsameFile⟩ := h.entry htree hfile
  cases hsame with
  | directory hlisted =>
    cases hsameFile
    exact ⟨_, n, contents, he, hlisted.names_perm.mem_iff.1 hmem, hname, hf⟩

/-- The root does not depend on the order of listings. -/
theorem resolveRoot_relisted {disk disk' : Disk} (h : disk.Relisted disk') (htree : disk.top.IsTree)
    (extensions : List String) (start : Path) :
    disk'.resolveRoot (.markers extensions) start = disk.resolveRoot (.markers extensions) start := by
  have htree' := h.top.isTree htree
  have hmarker : disk'.hasMarker = disk.hasMarker := by
    funext dir
    rw [Bool.eq_iff_iff, hasMarker_iff, hasMarker_iff]
    exact ⟨.relisted h.symm htree', .relisted h htree⟩
  have hproject : disk'.hasProjectFile extensions = disk.hasProjectFile extensions := by
    funext dir
    rw [Bool.eq_iff_iff, hasProjectFile_iff, hasProjectFile_iff]
    exact ⟨.relisted h.symm htree', .relisted h htree⟩
  have hcwd : disk'.cwdPath = disk.cwdPath := by rw [cwdPath, cwdPath, h.cwd]
  unfold resolveRoot findMarked findProject
  simp only [hmarker, hproject, hcwd]

/-! ## The root -/

theorem foldl_steps_cwdPath {disk : Disk} (hdisk : disk.WellFormed) :
    disk.cwdPath.steps.foldl Path.child .top = disk.cwdPath := by
  have hsteps : disk.cwdPath.steps = disk.cwd := by
    rw [Path.steps_eq_filter_names, names_cwdPath hdisk]
    exact List.filter_eq_self.2 fun n hn => decide_eq_true (hdisk.isProper_cwd n hn).2.1
  rw [hsteps]
  rfl

section

variable {disk : Disk} (hdisk : disk.WellFormed) {extensions : List String} {start a : Path}
  (ha : Path.absolute? disk.cwdPath start = some a)

include hdisk ha

theorem exists_stepped_of_absolute? :
    ∃ root names closed, Path.IsRoot root ∧ Path.Clean names
      ∧ a = Path.stepped root names closed := by
  have hne : start ≠ .empty := by
    rintro rfl
    cases ha
  obtain ⟨root, names, closed, hroot, hnames, hform⟩ :=
    Path.exists_stepped (foldl_steps_cwdPath hdisk) hne
  cases ha.symm.trans hform
  exact ⟨root, names, closed, hroot, hnames, rfl⟩

/-- The root is the nearest directory with a marker, or without any the nearest
    with a project file. -/
theorem resolveRoot_eq_ok_iff {r : Path} :
    disk.resolveRoot (.markers extensions) start = .ok r
      ↔ a.Nearest disk.HoldsMarker r
        ∨ (¬ ∃ q, q.Encloses a ∧ disk.HoldsMarker q) ∧ a.Nearest (disk.HoldsProject extensions) r := by
  obtain ⟨root, names, closed, hroot, hnames, rfl⟩ := exists_stepped_of_absolute? hdisk ha
  have hmarkers := ofDirectories_holdsMarker disk
  have hprojects := ofDirectories_holdsProject hdisk.tree extensions
  have hmarked := Path.find?_ancestors_eq_none_iff hasMarker_iff hmarkers hroot hnames closed
  rw [← hmarked, ← Path.find?_ancestors_eq_some_iff hasMarker_iff hmarkers hroot hnames,
    ← Path.find?_ancestors_eq_some_iff hasProjectFile_iff hprojects hroot hnames, resolveRoot]
  simp only [ha, findMarked, findProject]
  cases List.find? disk.hasMarker (Path.stepped root names closed).ancestors with
  | some found => simp
  | none =>
    cases List.find? (disk.hasProjectFile extensions) (Path.stepped root names closed).ancestors <;>
      simp

theorem resolveRoot_eq_error_iff {e : GenerationError} :
    disk.resolveRoot (.markers extensions) start = .error e
      ↔ (¬ ∃ q, q.Encloses a ∧ disk.HoldsMarker q)
        ∧ (¬ ∃ q, q.Encloses a ∧ disk.HoldsProject extensions q) ∧ e = .unresolvableRoot a := by
  obtain ⟨root, names, closed, hroot, hnames, rfl⟩ := exists_stepped_of_absolute? hdisk ha
  have hmarkers := ofDirectories_holdsMarker disk
  have hprojects := ofDirectories_holdsProject hdisk.tree extensions
  rw [← Path.find?_ancestors_eq_none_iff hasMarker_iff hmarkers hroot hnames closed,
    ← Path.find?_ancestors_eq_none_iff hasProjectFile_iff hprojects hroot hnames closed, resolveRoot]
  simp only [ha, findMarked, findProject]
  cases List.find? disk.hasMarker (Path.stepped root names closed).ancestors with
  | some found => simp
  | none =>
    cases List.find? (disk.hasProjectFile extensions) (Path.stepped root names closed).ancestors with
    | some found => simp
    | none => simp [eq_comm]

/-- Between the root and the start the same root is found. -/
theorem resolveRoot_between {r b start' : Path}
    (hr : disk.resolveRoot (.markers extensions) start = .ok r)
    (hb : Path.absolute? disk.cwdPath start' = some b) (hrb : r.Encloses b) (hba : b.Encloses a) :
    disk.resolveRoot (.markers extensions) start' = .ok (if b.steps = r.steps then b else r) := by
  rw [resolveRoot_eq_ok_iff hdisk hb]
  rw [resolveRoot_eq_ok_iff hdisk ha] at hr
  obtain ⟨root, names, closed, hroot, hnames, rfl⟩ := exists_stepped_of_absolute? hdisk ha
  rcases hr with hmarked | ⟨hnone, hproject⟩
  · exact .inl (hmarked.between (ofDirectories_holdsMarker disk) hroot hnames hrb hba)
  · refine .inr ⟨?_, hproject.between (ofDirectories_holdsProject hdisk.tree extensions) hroot hnames
      hrb hba⟩
    rintro ⟨q, hq, hqMarker⟩
    exact hnone ⟨q, hq.trans hba, hqMarker⟩

/-- The root is found again from itself. -/
theorem resolveRoot_root {r : Path} (hr : disk.resolveRoot (.markers extensions) start = .ok r) :
    disk.resolveRoot (.markers extensions) r = .ok r := by
  have hencloses : r.Encloses a := by
    rcases (resolveRoot_eq_ok_iff hdisk ha).1 hr with hmarked | ⟨-, hproject⟩
    · exact hmarked.encloses
    · exact hproject.encloses
  have hself : Path.absolute? disk.cwdPath r = some r := by
    obtain ⟨root, names, closed, hroot, hnames, rfl⟩ := exists_stepped_of_absolute? hdisk ha
    exact Path.absolute?_of_encloses hroot hnames hencloses _
  have hagain := resolveRoot_between hdisk ha hr hself ⟨hencloses.1, List.prefix_rfl⟩ hencloses
  rwa [if_pos rfl] at hagain

end

/-- The root of the project is the nearest of the directories whose path begins
    the absolute start: nearest by its marker or, if none of them has a marker,
    by its project file; if none has either, the error carries the absolute
    start.  The order of listings does not matter.  From the root, and from
    every path between it and the start, the same root is found; from a path of
    the same directory it is spelled like that path. -/
theorem resolveRoot_nearest {disk : Disk} (hdisk : disk.WellFormed) (extensions : List String)
    {start : Path} (hstart : start ≠ .empty) :
    ∃ a, Path.absolute? disk.cwdPath start = some a
      ∧ ((∃ q, q.Encloses a ∧ disk.HoldsMarker q) →
        ∃ r, disk.resolveRoot (.markers extensions) start = .ok r ∧ a.Nearest disk.HoldsMarker r)
      ∧ ((¬ ∃ q, q.Encloses a ∧ disk.HoldsMarker q) →
        (∃ q, q.Encloses a ∧ disk.HoldsProject extensions q) →
        ∃ r, disk.resolveRoot (.markers extensions) start = .ok r
          ∧ a.Nearest (disk.HoldsProject extensions) r)
      ∧ ((¬ ∃ q, q.Encloses a ∧ disk.HoldsMarker q) →
        (¬ ∃ q, q.Encloses a ∧ disk.HoldsProject extensions q) →
        disk.resolveRoot (.markers extensions) start = .error (.unresolvableRoot a))
      ∧ (∀ disk', disk.Relisted disk' →
        disk'.resolveRoot (.markers extensions) start = disk.resolveRoot (.markers extensions) start)
      ∧ ∀ r, disk.resolveRoot (.markers extensions) start = .ok r →
        disk.resolveRoot (.markers extensions) r = .ok r
          ∧ ∀ start' b, Path.absolute? disk.cwdPath start' = some b → r.Encloses b → b.Encloses a →
            ∃ r', disk.resolveRoot (.markers extensions) start' = .ok r' ∧ r'.sameAs r
              ∧ r' = if b.steps = r.steps then b else r := by
  obtain ⟨root, names, closed, hroot, hnames, ha⟩ :=
    Path.exists_stepped (foldl_steps_cwdPath hdisk) hstart
  generalize Path.stepped root names closed = a at ha
  have herror {e : GenerationError} :
      disk.resolveRoot (.markers extensions) start = .error e ↔ _ := resolveRoot_eq_error_iff hdisk ha
  refine ⟨a, ha, ?_, ?_, ?_, ?_, ?_⟩
  · intro hmarked
    cases hresult : disk.resolveRoot (.markers extensions) start with
    | error e => exact absurd hmarked (herror.1 hresult).1
    | ok r =>
      rcases (resolveRoot_eq_ok_iff hdisk ha).1 hresult with hnearest | ⟨hnone, -⟩
      · exact ⟨r, rfl, hnearest⟩
      · exact absurd hmarked hnone
  · intro hnone hproject
    cases hresult : disk.resolveRoot (.markers extensions) start with
    | error e => exact absurd hproject (herror.1 hresult).2.1
    | ok r =>
      rcases (resolveRoot_eq_ok_iff hdisk ha).1 hresult with hnearest | ⟨-, hnearest⟩
      · exact absurd ⟨r, hnearest.encloses, hnearest.here⟩ hnone
      · exact ⟨r, rfl, hnearest⟩
  · intro hnone hnoProject
    exact herror.2 ⟨hnone, hnoProject, rfl⟩
  · intro disk' hlisted
    exact resolveRoot_relisted hlisted hdisk.tree extensions start
  · intro r hr
    refine ⟨resolveRoot_root hdisk ha hr, fun start' b hb hrb hba => ?_⟩
    refine ⟨_, resolveRoot_between hdisk ha hr hb hrb hba, ?_, rfl⟩
    split
    · next hsteps => exact Path.sameAs_of_steps hba.1 hrb.1 hsteps
    · exact Path.sameAs_of_steps hrb.1 hrb.1 rfl

/-- A repository `shop` that is marked by a link, with a project `app` in it. -/
def repositoryWithApp : Disk where
  top := .directory (Utf8.encode "shop")
    (.link (Utf8.encode ".git") (.ofString "app/git")
      (.directory (Utf8.encode "app")
        (.directory (Utf8.encode "src") .empty
          (.file (Utf8.encode "App.csproj") [] (.directory (Utf8.encode "git") .empty .empty)))
        .empty))
    .empty
  cwd := [Utf8.encode "shop"]

theorem wellFormed_repositoryWithApp : repositoryWithApp.WellFormed where
  tree := by decide +kernel
  cwd := ⟨_, rfl⟩

/-- The far repository is found and not the near project, from `app/./src/` and
    from what is between. -/
theorem resolveRoot_nearest_far_marker :
    (Path.ofString "app/./src/" ≠ .empty)
      ∧ Path.Nearest repositoryWithApp.HoldsMarker (.ofString "/shop/app/src/") (.ofString "/shop")
      ∧ repositoryWithApp.resolveRoot (.markers ["sln", "csproj"]) (.ofString "app/./src/")
        = .ok (.ofString "/shop")
      ∧ repositoryWithApp.resolveRoot (.markers ["sln", "csproj"]) (.ofString "/shop//app")
        = .ok (.ofString "/shop") := by
  have hstart : Path.ofString "app/./src/" ≠ .empty := by decide +kernel
  have hform : Path.absolute? repositoryWithApp.cwdPath (.ofString "app/./src/")
      = some (.ofString "/shop/app/src/") := by cbv
  have hbetween : Path.absolute? repositoryWithApp.cwdPath (.ofString "/shop//app")
      = some (.ofString "/shop/app") := by cbv
  have hroot : repositoryWithApp.resolveRoot (.markers ["sln", "csproj"]) (.ofString "app/./src/")
      = .ok (.ofString "/shop") := by cbv
  have hmarker : repositoryWithApp.HoldsMarker (.ofString "/shop") :=
    ⟨.directory .empty, by cbv⟩
  obtain ⟨a, ha, hmarked, -, -, -, hstable⟩ :=
    resolveRoot_nearest wellFormed_repositoryWithApp ["sln", "csproj"] hstart
  cases ha.symm.trans hform
  obtain ⟨r, hr, hnearest⟩ := hmarked ⟨.ofString "/shop", ⟨by cbv, by decide +kernel⟩, hmarker⟩
  cases hr.symm.trans hroot
  obtain ⟨r', hr', -, heq⟩ := (hstable _ hroot).2 _ _ hbetween ⟨by cbv, by decide +kernel⟩
    ⟨by cbv, by decide +kernel⟩
  rw [if_neg (by decide +kernel)] at heq
  exact ⟨hstart, hnearest, hroot, heq ▸ hr'⟩

end Disk

end ClassAtlas
