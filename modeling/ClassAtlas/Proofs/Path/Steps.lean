import ClassAtlas.Disk.Walk
import ClassAtlas.Path.Absolute

/-! # The names of a path

    Joining two paths joins their names, climbing drops the last step, and making
    a path absolute puts the steps of the current directory in front.  All of
    this is seen through the segments of a path, which are its bytes between
    slashes, the empty ones included.
-/

namespace ClassAtlas.Path

/-! ## Segments -/

/-- The bytes between slashes. -/
def segments (bs : Bytes) : List Name := (cut bs).1 :: (cut bs).2

theorem names_eq (p : Path) : p.names = (segments p.bytes).filter (! ·.isEmpty) := rfl

theorem steps_eq (p : Path) : p.steps = (segments p.bytes).filter (! isIdle ·) := rfl

/-- The steps are the names without `.`. -/
theorem steps_eq_filter_names (p : Path) : p.steps = p.names.filter (· ≠ here) := by
  rw [steps_eq, names_eq, List.filter_filter]
  refine List.filter_congr fun n _ => ?_
  by_cases hn : n = here
  · simp [isIdle, hn]
  · cases n <;> simp [isIdle, hn]

theorem slash_not_mem_cut (bs : Bytes) : slash ∉ (cut bs).1 ∧ ∀ n ∈ (cut bs).2, slash ∉ n := by
  induction bs with
  | nil => simp [cut]
  | cons b bs ih =>
    by_cases h : b = slash
    · simp only [cut, if_pos h]
      refine ⟨List.not_mem_nil, List.forall_mem_cons.2 ih⟩
    · simp only [cut, if_neg h]
      refine ⟨fun hmem => ?_, ih.2⟩
      rcases List.mem_cons.1 hmem with heq | hmem
      · exact h heq.symm
      · exact ih.1 hmem

theorem slash_not_mem_of_mem_segments {bs : Bytes} {n : Name} (h : n ∈ segments bs) : slash ∉ n := by
  rcases List.mem_cons.1 h with rfl | hmem
  · exact (slash_not_mem_cut bs).1
  · exact (slash_not_mem_cut bs).2 n hmem

theorem slash_not_mem_of_mem_steps {p : Path} {n : Name} (h : n ∈ p.steps) : slash ∉ n :=
  slash_not_mem_of_mem_segments (List.mem_filter.1 h).1

theorem not_isIdle_of_mem_steps {p : Path} {n : Name} (h : n ∈ p.steps) : n ≠ [] ∧ n ≠ here := by
  have hidle := (List.mem_filter.1 h).2
  simpa [isIdle] using hidle

theorem segments_append_slash (xs ys : Bytes) :
    segments (xs ++ slash :: ys) = segments xs ++ segments ys := by
  induction xs with
  | nil => simp [segments, cut]
  | cons b xs ih =>
    unfold segments at *
    by_cases h : b = slash
    · simp only [List.cons_append, cut, if_pos h] at *
      rw [ih]
    · simp only [List.cons_append, cut, if_neg h] at *
      obtain ⟨hfirst, hmore⟩ := List.cons_eq_cons.1 ih
      rw [hfirst, hmore]

theorem segments_of_slash_not_mem {n : Name} (h : slash ∉ n) : segments n = [n] := by
  induction n with
  | nil => rfl
  | cons b n ih =>
    have hb : b ≠ slash := fun heq => h (heq ▸ List.mem_cons_self)
    have hn : slash ∉ n := fun hmem => h (List.mem_cons_of_mem b hmem)
    unfold segments at *
    obtain ⟨hfirst, hmore⟩ := List.cons_eq_cons.1 (ih hn)
    rw [cut, if_neg hb, hfirst, hmore]

/-- Cutting takes apart what was pasted. -/
theorem segments_paste {first : Name} {more : List Name} (hfirst : slash ∉ first)
    (hmore : ∀ n ∈ more, slash ∉ n) : segments (paste first more) = first :: more := by
  induction more generalizing first with
  | nil => simpa [paste] using segments_of_slash_not_mem hfirst
  | cons n more ih =>
    obtain ⟨hn, hmore⟩ := List.forall_mem_cons.1 hmore
    have hsplit : paste first (n :: more) = first ++ slash :: paste n more := by
      simp [paste]
    rw [hsplit, segments_append_slash, segments_of_slash_not_mem hfirst, ih hn hmore,
      List.singleton_append]

/-! ## Joining -/

theorem names_join (base rel : Path) (h : rel.isAbsolute = false) :
    (base.join rel).names = base.names ++ rel.names := by
  rw [join, if_neg (by simp [h])]
  by_cases hempty : base.bytes = []
  · rw [if_pos (.inl hempty)]
    simp [names_eq, hempty, segments, cut]
  by_cases hslash : base.endsInSlash
  · -- the slash at the end already separates the two
    rw [if_pos (.inr hslash)]
    obtain ⟨front, hfront⟩ := List.getLast?_eq_some_iff.1 (eq_of_beq hslash)
    have hbase : segments base.bytes = segments front ++ [[]] := by
      rw [hfront, segments_append_slash]
      rfl
    have hjoin : segments (base.bytes ++ rel.bytes) = segments front ++ segments rel.bytes := by
      rw [hfront, List.append_assoc, List.singleton_append, segments_append_slash]
    simp [names_eq, hbase, hjoin]
  · rw [if_neg (by simp [hempty, hslash])]
    simp [names_eq, segments_append_slash]

theorem isAbsolute_join (base rel : Path) (h : rel.isAbsolute = false) :
    (base.join rel).isAbsolute = base.isAbsolute := by
  rw [join, if_neg (by simp [h])]
  unfold isAbsolute at *
  cases hbytes : base.bytes with
  | nil => simpa using h
  | cons b bs => split <;> rfl

theorem isAbsolute_mk_eq_false {n : Name} (h : slash ∉ n) : (Path.mk n).isAbsolute = false := by
  unfold isAbsolute
  cases n with
  | nil => rfl
  | cons b n =>
    have hb : b ≠ slash := fun heq => h (heq ▸ List.mem_cons_self)
    simpa using hb

theorem names_child (base : Path) {n : Name} (h : slash ∉ n) (hne : n ≠ []) :
    (base.child n).names = base.names ++ [n] := by
  have hn : (Path.mk n).names = [n] := by
    simp [names_eq, segments_of_slash_not_mem h, hne]
  rw [child, names_join _ _ (isAbsolute_mk_eq_false h), hn]

theorem isAbsolute_child (base : Path) {n : Name} (h : slash ∉ n) :
    (base.child n).isAbsolute = base.isAbsolute :=
  isAbsolute_join _ _ (isAbsolute_mk_eq_false h)

theorem names_foldl_child (base : Path) {names : List Name}
    (h : ∀ n ∈ names, slash ∉ n ∧ n ≠ []) :
    (names.foldl child base).names = base.names ++ names := by
  induction names generalizing base with
  | nil => simp
  | cons n names ih =>
    obtain ⟨hn, hnames⟩ := List.forall_mem_cons.1 h
    rw [List.foldl_cons, ih _ hnames, names_child _ hn.1 hn.2, List.append_assoc,
      List.singleton_append]

theorem isAbsolute_foldl_child (base : Path) {names : List Name} (h : ∀ n ∈ names, slash ∉ n) :
    (names.foldl child base).isAbsolute = base.isAbsolute := by
  induction names generalizing base with
  | nil => rfl
  | cons n names ih =>
    obtain ⟨hn, hnames⟩ := List.forall_mem_cons.1 h
    rw [List.foldl_cons, ih _ hnames, isAbsolute_child _ hn]

/-! ## Climbing -/

theorem filter_dropWhile_isIdle (names : List Name) :
    (names.dropWhile isIdle).filter (! isIdle ·) = names.filter (! isIdle ·) := by
  induction names with
  | nil => rfl
  | cons n names ih =>
    by_cases h : isIdle n
    · rw [List.dropWhile_cons_of_pos h, ih]
      simp [h]
    · rw [List.dropWhile_cons_of_neg h]

theorem filter_trim (names : List Name) :
    (trim names).filter (! isIdle ·) = names.filter (! isIdle ·) := by
  rw [trim, List.filter_reverse, filter_dropWhile_isIdle, List.filter_reverse, List.reverse_reverse]

/-- One step up, by the cut of the path at its slashes: from a first name alone, to
    the top directory, or to the names that are kept. -/
inductive Climbs (p : Path) : Path → Prop where
  | fromFirst (hnamed : trim (cut p.bytes).2 = []) (hfirst : (cut p.bytes).1 ≠ []) : Climbs p empty
  | toTop (hnamed : trim (cut p.bytes).2 ≠ [])
      (hkept : trim (trim (cut p.bytes).2).dropLast = []) (hfirst : (cut p.bytes).1 = []) :
      Climbs p top
  | toKept (hnamed : trim (cut p.bytes).2 ≠ [])
      (hne : ¬ (trim (trim (cut p.bytes).2).dropLast = [] ∧ (cut p.bytes).1 = [])) :
      Climbs p ⟨paste (cut p.bytes).1 (trim (trim (cut p.bytes).2).dropLast)⟩

theorem climbs_of_parent? {p q : Path} (h : p.parent? = some q) : p.Climbs q := by
  simp only [parent?, List.isEmpty_iff, Bool.and_eq_true] at h
  split at h
  · next hnamed =>
    split at h
    · cases h
    · next hfirst =>
      cases h
      exact .fromFirst hnamed hfirst
  · next hnamed =>
    split at h
    · next hboth =>
      cases h
      exact .toTop hnamed hboth.1 hboth.2
    · next hboth =>
      cases h
      exact .toKept hnamed hboth

theorem kept_isPrefix (more : List Name) : trim (trim more).dropLast <+: trim more :=
  (trim_isPrefix _).trans (List.dropLast_prefix _)

theorem slash_not_mem_kept (p : Path) : ∀ n ∈ trim (trim (cut p.bytes).2).dropLast, slash ∉ n :=
  fun n hn => (slash_not_mem_cut p.bytes).2 n
    (((kept_isPrefix _).trans (trim_isPrefix _)).subset hn)

theorem segments_kept (p : Path) :
    segments (paste (cut p.bytes).1 (trim (trim (cut p.bytes).2).dropLast))
      = (cut p.bytes).1 :: trim (trim (cut p.bytes).2).dropLast :=
  segments_paste (slash_not_mem_cut p.bytes).1 (slash_not_mem_kept p)

/-- The idle names behind the last step do not count. -/
theorem steps_eq_trim (p : Path) :
    p.steps = ((cut p.bytes).1 :: trim (cut p.bytes).2).filter (! isIdle ·) := by
  rw [steps_eq, segments, List.filter_cons, List.filter_cons, filter_trim]

/-- Climbing drops the last step, if there is one. -/
theorem steps_parent? {p q : Path} (h : p.parent? = some q) : q.steps <+: p.steps := by
  cases climbs_of_parent? h with
  | fromFirst | toTop => exact List.nil_prefix
  | toKept =>
    rw [steps_eq, segments_kept, steps_eq_trim]
    exact (List.cons_prefix_cons.2 ⟨rfl, kept_isPrefix _⟩).filter _

/-- What has steps can be climbed. -/
theorem exists_parent?_of_mem_steps {p : Path} {n : Name} (h : n ∈ p.steps) :
    ∃ q, p.parent? = some q := by
  cases hparent : p.parent? with
  | some q => exact ⟨q, rfl⟩
  | none =>
    simp only [parent?] at hparent
    split at hparent
    · next htrim =>
      split at hparent
      · next hfirst =>
        -- the first name is empty and the others are idle
        have hmore : (cut p.bytes).2.filter (! isIdle ·) = [] := by
          rw [← filter_trim, List.isEmpty_iff.1 htrim, List.filter_nil]
        rw [steps, List.isEmpty_iff.1 hfirst, List.filter_cons_of_neg (by decide), hmore] at h
        cases h
      · cases hparent
    · split at hparent <;> cases hparent

theorem cut_fst_of_isAbsolute {p : Path} (h : p.isAbsolute) : (cut p.bytes).1 = [] := by
  unfold isAbsolute at h
  cases hbytes : p.bytes with
  | nil => simp [hbytes] at h
  | cons b bs =>
    have hb : b = slash := by simpa [hbytes] using h
    simp [cut, hb]

theorem isAbsolute_parent? {p q : Path} (h : p.parent? = some q) (hp : p.isAbsolute) :
    q.isAbsolute := by
  have hfirst := cut_fst_of_isAbsolute hp
  cases climbs_of_parent? h with
  | fromFirst _ hne => exact absurd hfirst hne
  | toTop => rfl
  | toKept _ hne =>
    obtain ⟨n, names, hcons⟩ := List.exists_cons_of_ne_nil fun hkept => hne ⟨hkept, hfirst⟩
    rw [hfirst, hcons]
    rfl

/-- The paths above an absolute path are absolute and take the first of its steps. -/
theorem steps_of_mem_ancestors {p q : Path} (hp : p.isAbsolute) (h : q ∈ p.ancestors) :
    q.isAbsolute ∧ q.steps <+: p.steps := by
  induction p using ancestors.induct with
  | case1 p hnone =>
    rw [ancestors] at h
    split at h
    · cases List.mem_singleton.1 h
      exact ⟨hp, List.prefix_rfl⟩
    · next hsome =>
      rw [hnone] at hsome
      cases hsome
  | case2 p r hsome _ ih =>
    rw [ancestors] at h
    split at h
    · next hnone =>
      rw [hsome] at hnone
      cases hnone
    · next r' hsome' =>
      rw [hsome] at hsome'
      cases hsome'
      rcases List.mem_cons.1 h with rfl | h
      · exact ⟨hp, List.prefix_rfl⟩
      · obtain ⟨habs, hsteps⟩ := ih (isAbsolute_parent? hsome hp) h
        exact ⟨habs, hsteps.trans (steps_parent? hsome)⟩

/-! ## Making absolute -/

/-- The steps of the absolute form: those of the path, after those of the current
    directory if the path is relative. -/
theorem names_absolute? {cwd p a : Path} (h : absolute? cwd p = some a) :
    a.names = (if p.isAbsolute then [] else cwd.names) ++ p.steps := by
  unfold absolute? at h
  by_cases hempty : p = empty
  · rw [if_pos hempty] at h
    cases h
  · rw [if_neg hempty] at h
    have hclean : ∀ n ∈ p.steps, slash ∉ n ∧ n ≠ [] := fun n hn =>
      ⟨slash_not_mem_of_mem_steps hn, (not_isIdle_of_mem_steps hn).1⟩
    have horigin : (origin cwd p).names = if p.isAbsolute then [] else cwd.names := by
      unfold origin
      split
      · split <;> rfl
      · rfl
    have hstepped : (p.steps.foldl child (origin cwd p)).names
        = (if p.isAbsolute then [] else cwd.names) ++ p.steps := by
      rw [names_foldl_child _ hclean, horigin]
    cases h
    split
    · rw [child, names_join _ _ rfl, hstepped]
      simp [names_eq, segments, cut]
    · exact hstepped

theorem isAbsolute_absolute? {cwd p a : Path} (h : absolute? cwd p = some a)
    (hcwd : cwd.isAbsolute) : a.isAbsolute := by
  unfold absolute? at h
  by_cases hempty : p = empty
  · rw [if_pos hempty] at h
    cases h
  · rw [if_neg hempty] at h
    have hclean : ∀ n ∈ p.steps, slash ∉ n := fun n hn => slash_not_mem_of_mem_steps hn
    have horigin : (origin cwd p).isAbsolute := by
      unfold origin
      split
      · split <;> rfl
      · exact hcwd
    have hstepped : (p.steps.foldl child (origin cwd p)).isAbsolute := by
      rw [isAbsolute_foldl_child _ hclean]
      exact horigin
    cases h
    split
    · rw [child, isAbsolute_join _ _ rfl]
      exact hstepped
    · exact hstepped

end ClassAtlas.Path
