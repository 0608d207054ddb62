import ClassAtlas.Proofs.Path.Beside

/-! # Normal forms

    Of all the texts that spell one path from one directory, the absolute form
    is the normal one: a slash in front, no name `.`, and no slash right behind
    another but for the two that may open it.  It keeps what a path says, that
    is whether it opens with two slashes, its names in their order, and whether a
    slash ends it; no other normal text does (`Path.absolute_isNormalForm`).
-/

namespace ClassAtlas

theorem tail_append_isSuffix {α : Type} {front xs : List α} (h : front.length ≤ 1) :
    (front ++ xs).tail <:+ xs := by
  rw [← List.drop_one, List.drop_append, List.drop_of_length_le h, List.nil_append]
  exact List.drop_suffix _ _

theorem dropLast_append_isPrefix {α : Type} {xs back : List α} (h : back.length ≤ 1) :
    (xs ++ back).dropLast <+: xs := by
  have hback : (xs ++ back).length - 1 - xs.length = 0 := by
    rw [List.length_append]
    omega
  rw [List.dropLast_eq_take, List.take_append, hback, List.take_zero, List.append_nil]
  exact List.take_prefix _ _

namespace Path

/-! ## Normal paths -/

/-- A path whose text holds nothing idle: it starts with a slash, no name in it is
    `.`, and behind its first byte no slash follows another. -/
structure IsNormal (p : Path) : Prop where
  isAbsolute : p.isAbsolute
  here_not_mem : here ∉ p.bytes.splitOn slash
  not_repeated : ¬ [slash, slash] <:+: p.bytes.tail

instance (p : Path) : Decidable p.IsNormal :=
  decidable_of_iff
    (p.isAbsolute ∧ here ∉ p.bytes.splitOn slash ∧ ¬ [slash, slash] <:+: p.bytes.tail)
    ⟨fun ⟨habs, hhere, hrepeated⟩ => ⟨habs, hhere, hrepeated⟩,
      fun ⟨habs, hhere, hrepeated⟩ => ⟨habs, hhere, hrepeated⟩⟩

/-- What stands between the slashes of a path, less what is empty or `.` -/
def components (p : Path) : List Name :=
  (p.bytes.splitOn slash).filter fun n => n ≠ [] ∧ n ≠ here

/-- `a` is normal and says what `p` says, seen from `cwd`. -/
structure IsNormalForm (cwd p a : Path) : Prop where
  isNormal : a.IsNormal
  /-- Two slashes in front are kept, three or more are as one. -/
  opens : [slash, slash] <+: a.bytes
    ↔ [slash, slash] <+: p.bytes ∧ ¬ [slash, slash, slash] <+: p.bytes
  /-- No name is lost, `..` included, and a relative path starts from `cwd`. -/
  components : a.components = (if p.isAbsolute then [] else cwd.components) ++ p.components
  /-- A slash at the end is kept and none is put there, but a root is its slash or
      two with nothing behind. -/
  closes : ¬ IsRoot a → (a.endsInSlash ↔ p.endsInSlash)

/-! ## Bytes between slashes -/

theorem splitOn_slash (bs : Bytes) : bs.splitOn slash = segments bs := by
  induction bs with
  | nil => rfl
  | cons b bs ih =>
    rw [List.splitOn_cons_eq_if_modifyHead, ih]
    by_cases h : b = slash <;> simp [segments, cut, h]

theorem components_eq_steps (p : Path) : p.components = p.steps := by
  rw [components, splitOn_slash, steps_eq]
  refine List.filter_congr fun n _ => ?_
  by_cases hnil : n = [] <;> by_cases hhere : n = here <;> simp [isIdle, hnil, hhere]

theorem segments_slash_cons (bs : Bytes) : segments (slash :: bs) = [] :: segments bs :=
  segments_append_slash [] bs

/-- Two slashes in a row have an empty name between them. -/
theorem repeated_iff {bs : Bytes} : [slash, slash] <:+: bs ↔ [] ∈ (segments bs).tail.dropLast := by
  constructor
  · rintro ⟨front, back, rfl⟩
    have hsegments : segments (front ++ [slash, slash] ++ back)
        = segments front ++ [] :: segments back := by
      rw [List.append_assoc, List.cons_append, segments_append_slash, List.singleton_append,
        segments_slash_cons]
    have hfront : segments front ≠ [] := List.cons_ne_nil _ _
    have hback : segments back ≠ [] := List.cons_ne_nil _ _
    rw [hsegments, List.tail_append_of_ne_nil hfront,
      List.dropLast_append_of_ne_nil (List.cons_ne_nil _ _), List.dropLast_cons_of_ne_nil hback]
    simp
  · intro hmem
    have hne : (cut bs).2 ≠ [] := by
      intro hnil
      rw [segments, hnil] at hmem
      cases hmem
    obtain ⟨front, back, hsplit⟩ := List.append_of_mem hmem
    have hmore : (cut bs).2 = front ++ [] :: (back ++ [(cut bs).2.getLast hne]) := by
      rw [← List.cons_append, ← List.append_assoc, ← hsplit]
      exact (List.dropLast_concat_getLast hne).symm
    -- whatever comes behind the empty name has a slash in front
    obtain ⟨n, names, hcons⟩ := List.exists_cons_of_ne_nil
      (List.append_ne_nil_of_right_ne_nil back (List.cons_ne_nil ((cut bs).2.getLast hne) []))
    rw [← paste_cut bs, hmore, hcons]
    exact ⟨(cut bs).1 ++ front.flatMap (slash :: ·), n ++ names.flatMap (slash :: ·),
      by simp [paste]⟩

/-! ## Steps from a root -/

section

variable {root : Path} {names : List Name}

theorem segments_stepped (hroot : IsRoot root) (h : Clean names) (hne : names ≠ [])
    (closed : Bool) : segments (stepped root names closed).bytes
      = [] :: (lead root ++ names ++ if closed then [[]] else []) := by
  rw [segments, cut_stepped hroot h hne closed]

/-- Steps from one slash or from two make a normal path. -/
theorem isNormal_stepped (hroot : IsRoot root) (h : Clean names) (closed : Bool) :
    (stepped root names closed).IsNormal := by
  by_cases hne : names = []
  · rw [hne, stepped_nil hroot]
    rcases hroot with rfl | rfl <;> decide +kernel
  have hsegments := segments_stepped hroot h hne closed
  have habs : (stepped root names closed).isAbsolute := by
    rw [isAbsolute_stepped h.slash, hroot.isAbsolute]
  have hlead : lead root = [] ∨ lead root = [[]] := by
    rcases hroot with rfl | rfl
    · exact .inl rfl
    · exact .inr rfl
  refine ⟨habs, ?_, ?_⟩
  · rw [splitOn_slash, hsegments]
    intro hmem
    have hname : here ∈ names := by
      rcases hlead with hlead | hlead <;> cases closed <;> simpa [hlead, here] using hmem
    exact (h _ hname).2 rfl
  · obtain ⟨tail, htail⟩ := List.head?_eq_some_iff.1 (eq_of_beq habs)
    rw [htail, segments_slash_cons] at hsegments
    rw [htail, List.tail_cons, repeated_iff, (List.cons_eq_cons.1 hsegments).2]
    intro hmem
    -- an empty name stands in front of the steps or behind them
    have hback : (if closed then [[]] else [] : List Name).length ≤ 1 := by cases closed <;> decide
    have hfront : (lead root).length ≤ 1 := by rcases hlead with hlead | hlead <;> simp [hlead]
    rw [← List.tail_dropLast, ← List.drop_one] at hmem
    have hinner := ((dropLast_append_isPrefix hback).drop 1).subset hmem
    rw [List.drop_one] at hinner
    have hname : [] ∈ names := (tail_append_isSuffix hfront).subset hinner
    exact (h.ne_nil _ hname).2 rfl

theorem endsInSlash_stepped_iff (hroot : IsRoot root) (h : Clean names) (hne : names ≠ [])
    (closed : Bool) : (stepped root names closed).endsInSlash ↔ closed := by
  cases closed with
  | true => exact iff_of_true (endsInSlash_child_nil (stepped_ne_nil hroot h false)) rfl
  | false => exact iff_of_false (not_endsInSlash_stepped h hne) Bool.false_ne_true

theorem opensDouble_stepped_iff (h : Clean names) (closed : Bool) :
    (stepped root names closed).opensDouble ↔ root.opensDouble := by
  rw [opensDouble_iff, opensDouble_iff, slashes_stepped h.slash]

theorem IsRoot.steps_eq_nil (h : IsRoot root) : root.steps = [] := by
  rcases h with rfl | rfl <;> decide

theorem opensDouble_rootOf_iff (p : Path) : p.rootOf.opensDouble ↔ p.opensDouble := by
  rw [rootOf]
  split
  · next hdouble => exact iff_of_true rfl hdouble
  · next hsingle => exact iff_of_false (by decide) hsingle

theorem IsRoot.eq_rootOf {p : Path} (h : IsRoot root)
    (hdouble : root.opensDouble ↔ p.opensDouble) : root = p.rootOf := by
  rw [rootOf]
  rcases h with rfl | rfl
  · exact (if_neg fun hp => Bool.false_ne_true (hdouble.2 hp)).symm
  · exact (if_pos (hdouble.1 rfl)).symm

end

/-! ## Normal paths by their parts -/

theorem clean_of_subset_segments {bs : Bytes} {names : List Name} (hhere : here ∉ segments bs)
    (hsub : names ⊆ segments bs) (hne : [] ∉ names) : Clean names := by
  intro n hn
  refine ⟨slash_not_mem_of_mem_segments (hsub hn), fun hidle => ?_⟩
  rw [isIdle, Bool.or_eq_true, beq_iff_eq, beq_iff_eq] at hidle
  rcases hidle with rfl | rfl
  · exact hne hn
  · exact hhere (hsub hn)

/-- What comes behind the slashes in front of a normal path. -/
theorem exists_paste {rest : Bytes} (hne : rest ≠ []) (hhead : rest.head? ≠ some slash)
    (hrepeated : ¬ [slash, slash] <:+: rest) (hhere : here ∉ segments rest) :
    ∃ n names, ∃ closed : Bool, Clean (n :: names)
      ∧ rest = paste n (names ++ if closed then [[]] else []) := by
  have hpaste := paste_cut rest
  have hfirst : [] ≠ (cut rest).1 := by
    intro hnil
    rw [← hnil] at hpaste
    cases hmore : (cut rest).2 with
    | nil => exact hne (by rw [← hpaste, hmore]; rfl)
    | cons n names => exact hhead (by rw [← hpaste, hmore]; rfl)
  have hinner : [] ∉ (cut rest).2.dropLast := mt repeated_iff.2 hrepeated
  have hsegments : segments rest = (cut rest).1 :: (cut rest).2 := rfl
  rcases List.eq_nil_or_concat' (cut rest).2 with hmore | ⟨front, last, hmore⟩
  · rw [hmore] at hpaste hsegments
    refine ⟨(cut rest).1, [], false, clean_of_subset_segments hhere ?_ ?_, hpaste.symm⟩
    · exact hsegments ▸ List.Subset.refl _
    · exact fun hmem => hfirst (List.mem_singleton.1 hmem)
  · -- only the last name may be empty, behind a slash at the end
    rw [hmore, List.dropLast_concat] at hinner
    rw [hmore] at hpaste hsegments
    by_cases hlast : [] = last
    · refine ⟨(cut rest).1, front, true, clean_of_subset_segments hhere ?_ ?_, ?_⟩
      · rw [hsegments]
        exact List.cons_subset_cons _ (List.subset_append_left _ _)
      · exact fun hmem => (List.mem_cons.1 hmem).elim hfirst hinner
      · rw [if_pos rfl, hlast, hpaste]
    · refine ⟨(cut rest).1, front ++ [last], false, clean_of_subset_segments hhere ?_ ?_, ?_⟩
      · exact hsegments ▸ List.Subset.refl _
      · simp only [List.mem_cons, List.mem_append, List.not_mem_nil, or_false, not_or]
        exact ⟨hfirst, hinner, hlast⟩
      · rw [if_neg Bool.false_ne_true, List.append_nil, hpaste]

/-- A normal path takes steps from one slash or from two. -/
theorem IsNormal.exists_stepped {a : Path} (h : a.IsNormal) :
    ∃ root names closed, IsRoot root ∧ Clean names ∧ a = stepped root names closed := by
  obtain ⟨tail, htail⟩ := List.head?_eq_some_iff.1 (eq_of_beq h.isAbsolute)
  have hrepeated := h.not_repeated
  rw [htail, List.tail_cons] at hrepeated
  have hsplit : ∃ root rest, IsRoot root ∧ a.bytes = root.bytes ++ rest
      ∧ rest.head? ≠ some slash ∧ ¬ [slash, slash] <:+: rest := by
    by_cases hhead : tail.head? = some slash
    · obtain ⟨rest, rfl⟩ := List.head?_eq_some_iff.1 hhead
      refine ⟨⟨[slash, slash]⟩, rest, .inr rfl, htail, fun hthird => hrepeated ?_,
        fun hlater => hrepeated (hlater.trans (List.suffix_cons _ _).isInfix)⟩
      obtain ⟨more, rfl⟩ := List.head?_eq_some_iff.1 hthird
      exact ⟨[], more, rfl⟩
    · exact ⟨top, tail, .inl rfl, htail, hhead, hrepeated⟩
  obtain ⟨root, rest, hroot, hbytes, hhead, hrest⟩ := hsplit
  by_cases hne : rest = []
  · have hform : a.bytes = root.bytes := by rw [hbytes, hne, List.append_nil]
    exact ⟨root, [], false, hroot, List.forall_mem_nil _, congrArg Path.mk hform⟩
  rw [hroot.bytes_eq, List.append_assoc, List.singleton_append] at hbytes
  have hhere : here ∉ segments rest := by
    intro hmem
    refine h.here_not_mem ?_
    rw [splitOn_slash, hbytes, segments_append_slash]
    exact List.mem_append_right _ hmem
  obtain ⟨n, names, closed, hclean, hpaste⟩ := exists_paste hne hhead hrest hhere
  have hform : a.bytes = (stepped root (n :: names) closed).bytes := by
    rw [hbytes, hpaste, bytes_stepped hroot hclean (List.cons_ne_nil _ _)]
    simp [paste]
  exact ⟨root, n :: names, closed, hroot, hclean, congrArg Path.mk hform⟩

theorem opensDouble_iff_isPrefix {p : Path} :
    p.opensDouble ↔ [slash, slash] <+: p.bytes ∧ ¬ [slash, slash, slash] <+: p.bytes := by
  simp only [opensDouble, Bool.and_eq_true, List.isPrefixOf_iff_prefix, Bool.not_eq_true',
    ← Bool.not_eq_true]

/-- No third slash opens a normal path. -/
theorem IsNormal.double_iff {a : Path} (h : a.IsNormal) :
    [slash, slash] <+: a.bytes ↔ a.opensDouble := by
  rw [opensDouble_iff_isPrefix, iff_comm, and_iff_left_iff_imp]
  rintro - ⟨more, hmore⟩
  refine h.not_repeated ?_
  rw [← hmore]
  exact ⟨[], more, rfl⟩

/-- A directory with a normal path is settled, unless its path opens with two
    slashes or ends in one. -/
theorem IsNormal.settled {cwd : Path} (h : cwd.IsNormal) (hsingle : ¬ [slash, slash] <+: cwd.bytes)
    (hopen : cwd.endsInSlash → cwd = top) : cwd.Settled := by
  by_cases htop : cwd = top
  · exact .inl htop
  obtain ⟨root, names, closed, hroot, hclean, rfl⟩ := h.exists_stepped
  have hrootTop : root = top := by
    refine hroot.resolve_right ?_
    rintro rfl
    rw [h.double_iff, opensDouble_stepped_iff hclean] at hsingle
    exact hsingle rfl
  have hne : names ≠ [] := by
    rintro rfl
    exact htop (by rw [stepped_nil hroot, hrootTop])
  cases closed with
  | true => exact absurd (hopen ((endsInSlash_stepped_iff hroot hclean hne true).2 rfl)) htop
  | false =>
    refine .inr ⟨h.isAbsolute, fun n hn => ?_⟩
    rw [cut_stepped hroot hclean hne, hrootTop] at hn
    exact (hclean n (by simpa [lead, top, cut] using hn)).2

/-! ## The normal form of a path -/

section

variable {cwd p : Path} (hcwd : cwd.Settled) (hp : p ≠ empty)

include hcwd hp

theorem isNormalForm_absolute : IsNormalForm cwd p (absolute cwd p) := by
  have hroot := isRoot_rootOf p
  have hclean := clean_stepsFrom cwd p
  rw [absolute, absolute?_eq_rootOf hcwd hp, Option.getD_some]
  have hnormal := isNormal_stepped hroot hclean p.endsInSlash
  refine ⟨hnormal, ?_, ?_, fun hnotRoot => ?_⟩
  · rw [hnormal.double_iff, opensDouble_stepped_iff hclean, opensDouble_rootOf_iff,
      opensDouble_iff_isPrefix]
  · rw [components_eq_steps, components_eq_steps, components_eq_steps, steps_stepped hroot hclean,
      stepsFrom]
  · refine endsInSlash_stepped_iff hroot hclean (fun hnil => hnotRoot ?_) _
    rw [hnil, stepped_nil hroot]
    exact hroot

/-- What is normal and says the same is spelled the same. -/
theorem IsNormalForm.eq_absolute {a : Path} (h : IsNormalForm cwd p a) : a = absolute cwd p := by
  rw [absolute, absolute?_eq_rootOf hcwd hp, Option.getD_some]
  obtain ⟨root, names, closed, hroot, hclean, rfl⟩ := h.isNormal.exists_stepped
  have hrootOf : root = p.rootOf := by
    refine hroot.eq_rootOf ?_
    rw [← opensDouble_stepped_iff hclean closed, ← h.isNormal.double_iff, h.opens,
      opensDouble_iff_isPrefix]
  have hnames : names = stepsFrom cwd p := by
    have hcomponents := h.components
    rwa [components_eq_steps, components_eq_steps, components_eq_steps,
      steps_stepped hroot hclean] at hcomponents
  by_cases hnil : names = []
  · rw [← hrootOf, ← hnames, hnil, stepped_nil hroot, stepped_nil hroot]
  · have hsteps : (stepped root names closed).steps ≠ [] := by rwa [steps_stepped hroot hclean]
    have hcloses := h.closes fun hisRoot => hsteps hisRoot.steps_eq_nil
    rw [endsInSlash_stepped_iff hroot hclean hnil, ← Bool.eq_iff_iff] at hcloses
    rw [← hrootOf, ← hnames, hcloses]

end

/-- Seen from a directory whose path is normal, of one slash in front and, but for
    the top, none at the end, every path but the empty one has an absolute form.
    It is the normal form of the path and the only one; to make it absolute again
    changes nothing, so the link of a file does not show whether that was done. -/
theorem absolute_isNormalForm {cwd p : Path} (hcwd : cwd.IsNormal)
    (hsingle : ¬ [slash, slash] <+: cwd.bytes) (hopen : cwd.endsInSlash → cwd = top)
    (hp : p ≠ empty) :
    absolute? cwd p = some (absolute cwd p)
      ∧ IsNormalForm cwd p (absolute cwd p)
      ∧ (∀ a, IsNormalForm cwd p a → a = absolute cwd p)
      ∧ absolute cwd (absolute cwd p) = absolute cwd p
      ∧ Uri.ofPath cwd (absolute cwd p) = Uri.ofPath cwd p := by
  have hsettled := hcwd.settled hsingle hopen
  have hform : absolute? cwd p = some (absolute cwd p) := by
    rw [absolute, absolute?_eq_rootOf hsettled hp, Option.getD_some]
  exact ⟨hform, isNormalForm_absolute hsettled hp, fun _ ha => ha.eq_absolute hsettled hp,
    absolute_absolute hsettled p, Uri.ofPath_absolute hsettled p⟩

/-- A relative path through `.`, `..` and slashes in a row to a name that is no text,
    with a slash at the end. -/
theorem absolute_isNormalForm_dotted :
    let cwd : Path := .ofString "/work"
    let p : Path := ⟨Utf8.encode ".//src/./..///" ++ [0xFF, slash]⟩
    let a : Path := ⟨Utf8.encode "/work/src/../" ++ [0xFF, slash]⟩
    cwd.IsNormal ∧ ¬ [slash, slash] <+: cwd.bytes ∧ ¬ cwd.endsInSlash ∧ p ≠ empty
      ∧ absolute? cwd p = some a ∧ IsNormalForm cwd p a
      ∧ a.components = [Utf8.encode "work", Utf8.encode "src", up, [0xFF]]
      ∧ absolute cwd a = a ∧ Uri.ofPath cwd a = Uri.ofPath cwd p
      ∧ Uri.ofPath cwd p = "file:///work/src/../%FF/" := by
  intro cwd p a
  have hcwd : cwd.IsNormal := by decide +kernel
  have hsingle : ¬ [slash, slash] <+: cwd.bytes := by decide +kernel
  have hopen : ¬ cwd.endsInSlash := by decide +kernel
  have hp : p ≠ empty := by decide +kernel
  have ha : absolute cwd p = a := by decide +kernel
  have hcomponents : a.components = [Utf8.encode "work", Utf8.encode "src", up, [0xFF]] := by
    decide +kernel
  have hlink : Uri.ofPath cwd p = "file:///work/src/../%FF/" := by decide +kernel
  obtain ⟨hform, hnormal, -, hagain, hsame⟩ :=
    absolute_isNormalForm hcwd hsingle (fun hends => absurd hends hopen) hp
  rw [ha] at hform hnormal hagain hsame
  exact ⟨hcwd, hsingle, hopen, hp, hform, hnormal, hcomponents, hagain, hsame, hlink⟩

/-- Two slashes in front stay, three do not, and a root has its slash whether the
    path ends in one or in a dot. -/
example :
    let cwd : Path := .ofString "/work"
    absolute cwd (.ofString "//./x//") = .ofString "//x/"
      ∧ absolute cwd (.ofString "///x") = .ofString "/x"
      ∧ absolute cwd (.ofString "//.") = .ofString "//"
      ∧ absolute cwd (.ofString "x/.") = .ofString "/work/x" := by
  decide +kernel

end Path

end ClassAtlas
