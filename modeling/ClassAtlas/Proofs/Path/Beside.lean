import ClassAtlas.Proofs.Path.Climbing

/-! # What stands beside a file

    A path can be followed from the directory of a file.  Where that leads is
    settled by the absolute form of the file's path, however the path is spelled
    (`Path.absolute_beside`): climbing drops the last step, joining puts steps
    behind, and in between only the slashes in front could differ.  The one path
    that must be left out spells the current directory by dots alone, so that
    there is no step to drop; from there the way leads elsewhere
    (`Path.absolute_beside_ne`).
-/

namespace ClassAtlas.Path

/-- The path that follows `rel` from the directory of the file. -/
def beside (file rel : Path) : Path := (file.parent?.getD empty).join rel

/-- The name of the file that a path leads to: its last step, unless that goes up. -/
def fileName? (p : Path) : Option Name := p.steps.getLast?.filter (· ≠ up)

theorem steps_ne_nil_of_fileName? {p : Path} (h : p.fileName?.isSome) : p.steps ≠ [] := by
  intro hnil
  rw [fileName?, hnil] at h
  cases h

theorem steps_empty : empty.steps = [] := rfl

theorem ne_empty_of_steps {p : Path} (h : p.steps ≠ []) : p ≠ empty := by
  rintro rfl
  exact h steps_empty

/-! ## Absolute forms by their parts -/

/-- The slashes that the absolute form of a path starts with. -/
def rootOf (p : Path) : Path := if p.opensDouble then ⟨[slash, slash]⟩ else top

/-- The steps of the absolute form of a path. -/
def stepsFrom (cwd p : Path) : List Name := (if p.isAbsolute then [] else cwd.steps) ++ p.steps

theorem isRoot_rootOf (p : Path) : IsRoot p.rootOf := by
  unfold rootOf
  split
  · exact .inr rfl
  · exact .inl rfl

theorem IsRoot.eq_of_slashes_eq {root root' : Path} (h : IsRoot root) (h' : IsRoot root')
    (heq : root.slashes = root'.slashes) : root = root' := by
  rcases h with rfl | rfl <;> rcases h' with rfl | rfl <;> first | rfl | cases heq

theorem clean_stepsFrom (cwd p : Path) : Clean (stepsFrom cwd p) := by
  intro n hn
  rcases List.mem_append.1 hn with hn | hn
  · split at hn
    · cases hn
    · exact clean_steps cwd n hn
  · exact clean_steps p n hn

theorem isAbsolute_of_opensDouble {p : Path} (h : p.opensDouble) : p.isAbsolute := by
  by_contra hrel
  have hslashes := slashes_of_not_isAbsolute (Bool.eq_false_iff.2 hrel)
  rw [opensDouble_iff.1 h] at hslashes
  cases hslashes

theorem absolute?_eq_rootOf {cwd p : Path} (hcwd : cwd.Settled) (hp : p ≠ empty) :
    absolute? cwd p = some (stepped p.rootOf (stepsFrom cwd p) p.endsInSlash) := by
  rw [absolute?_eq_stepped hp, origin, rootOf, stepsFrom]
  by_cases habs : p.isAbsolute
  · rw [if_pos habs, if_pos habs, List.nil_append]
  · have hsingle : ¬ p.opensDouble := fun h => habs (isAbsolute_of_opensDouble h)
    -- the steps of the current directory lead from the top directory to it
    rw [if_neg habs, if_neg habs, if_neg hsingle, stepped, stepped, List.foldl_append,
      hcwd.foldl_steps]

theorem steps_absolute {cwd p : Path} (hcwd : cwd.Settled) (hp : p ≠ empty) :
    (absolute cwd p).steps = stepsFrom cwd p := by
  rw [absolute, absolute?_eq_rootOf hcwd hp, Option.getD_some,
    steps_stepped (isRoot_rootOf p) (clean_stepsFrom cwd p)]

/-- An absolute form shows its slashes and its steps. -/
theorem parts_eq_of_absolute_eq {cwd p q : Path} (hcwd : cwd.Settled) (hp : p ≠ empty)
    (h : absolute cwd q = absolute cwd p) :
    q.rootOf = p.rootOf ∧ stepsFrom cwd q = stepsFrom cwd p := by
  have hq : q ≠ empty := by
    rintro rfl
    have hnil : (absolute cwd p).bytes = [] := by
      rw [← h]
      rfl
    rw [absolute, absolute?_eq_rootOf hcwd hp, Option.getD_some] at hnil
    exact stepped_ne_nil (isRoot_rootOf p) (clean_stepsFrom cwd p) _ hnil
  constructor
  · have hslashes := congrArg slashes h
    rw [absolute, absolute, absolute?_eq_rootOf hcwd hp, absolute?_eq_rootOf hcwd hq,
      Option.getD_some, Option.getD_some, slashes_stepped (clean_stepsFrom cwd q).slash,
      slashes_stepped (clean_stepsFrom cwd p).slash] at hslashes
    exact (isRoot_rootOf q).eq_of_slashes_eq (isRoot_rootOf p) hslashes
  · have hsteps := congrArg steps h
    rwa [steps_absolute hcwd hq, steps_absolute hcwd hp] at hsteps

/-! ## The directory of a file -/

theorem eq_nil_of_mem_segments {bs : Bytes} (h : ∀ b ∈ bs, b = slash) : ∀ n ∈ segments bs, n = [] := by
  induction bs with
  | nil =>
    intro n hn
    exact List.mem_singleton.1 hn
  | cons b bs ih =>
    obtain ⟨hb, hbs⟩ := List.forall_mem_cons.1 h
    rw [segments, cut, if_pos hb]
    exact List.forall_mem_cons.2 ⟨rfl, ih hbs⟩

/-- A path with steps is more than slashes. -/
theorem slashes_ne_bytes {p : Path} (h : p.steps ≠ []) : p.slashes ≠ p.bytes := by
  intro hall
  rw [slashes, List.takeWhile_eq_self_iff] at hall
  refine h (List.filter_eq_nil_iff.2 fun n hn => ?_)
  rw [eq_nil_of_mem_segments (fun b hb => eq_of_beq (hall b hb)) n hn]
  decide

theorem slashes_eq_of_isPrefix {p q : Path} (h : q.bytes <+: p.bytes) (hq : q.steps ≠ []) :
    q.slashes = p.slashes := by
  obtain ⟨more, hmore⟩ := h
  have hlength : (q.bytes.takeWhile (· == slash)).length ≠ q.bytes.length :=
    fun heq => slashes_ne_bytes hq ((List.takeWhile_prefix _).eq_of_length heq)
  rw [slashes, slashes, ← hmore, List.takeWhile_append, if_neg hlength]

theorem not_isIdle_of_trim_eq_concat {names front : List Name} {last : Name}
    (h : trim names = front ++ [last]) : ¬ isIdle last := by
  have hdrop : names.reverse.dropWhile isIdle = last :: front.reverse := by
    rw [trim, List.reverse_eq_iff] at h
    simpa using h
  have hhead := List.head?_dropWhile_not isIdle names.reverse
  rw [hdrop] at hhead
  exact Bool.eq_false_iff.1 hhead

/-- What is kept in front of the last name are the steps but the last. -/
theorem dropLast_steps {p : Path} (h : trim (cut p.bytes).2 ≠ []) :
    p.steps.dropLast
      = ((cut p.bytes).1 :: trim (trim (cut p.bytes).2).dropLast).filter (! isIdle ·) := by
  obtain ⟨front, last, hsplit⟩ := (List.eq_nil_or_concat' _).resolve_left h
  have hlast : [last].filter (! isIdle ·) = [last] := by
    simp [not_isIdle_of_trim_eq_concat hsplit]
  rw [steps_eq_trim, hsplit, ← List.cons_append, List.filter_append, hlast, List.dropLast_concat,
    List.dropLast_concat, List.filter_cons, List.filter_cons, filter_trim]

/-- Climbing drops the last step.  Where no step is left of an absolute path, it
    ends in the top directory. -/
theorem steps_of_parent? {p q : Path} (h : p.parent? = some q) :
    q.steps = p.steps.dropLast ∧ (p.isAbsolute → q.steps = [] → q = top) := by
  cases climbs_of_parent? h with
  | fromFirst hnamed hfirst =>
    constructor
    · rw [steps_eq_trim p, hnamed]
      by_cases hidle : isIdle (cut p.bytes).1 <;> simp [hidle, steps_empty]
    · intro habs
      exact absurd (cut_fst_of_isAbsolute habs) hfirst
  | toTop hnamed hkept hfirst =>
    rw [dropLast_steps hnamed, hkept, hfirst]
    exact ⟨rfl, fun _ _ => rfl⟩
  | toKept hnamed hne =>
    rw [dropLast_steps hnamed, steps_eq, segments_kept]
    refine ⟨rfl, fun habs hnil => ?_⟩
    -- of an absolute path names are kept, so the last of them is a step
    obtain ⟨front, n, hconcat⟩ := (List.eq_nil_or_concat' _).resolve_left
      fun hkept => hne ⟨hkept, cut_fst_of_isAbsolute habs⟩
    have hidle := List.filter_eq_nil_iff.1 hnil n (by simp [hconcat])
    exact absurd (not_isIdle_of_trim_eq_concat hconcat) (by simpa using hidle)

/-- The directory of a file has its steps but the last. -/
theorem steps_directory (p : Path) : (p.parent?.getD empty).steps = p.steps.dropLast := by
  cases hparent : p.parent? with
  | some dir => exact (steps_of_parent? hparent).1
  | none =>
    have hnil : p.steps = [] := by
      by_contra hne
      obtain ⟨n, hn⟩ := List.exists_mem_of_ne_nil _ hne
      obtain ⟨dir, hdir⟩ := exists_parent?_of_mem_steps hn
      rw [hparent] at hdir
      cases hdir
    rw [hnil]
    rfl

theorem isAbsolute_directory_of_relative {p : Path} (h : p.isAbsolute = false) :
    (p.parent?.getD empty).isAbsolute = false := by
  cases hparent : p.parent? with
  | none => rfl
  | some dir =>
    rw [Option.getD_some]
    by_cases hempty : dir = empty
    · rw [hempty]
      rfl
    · rw [isAbsolute_eq_of_isPrefix (bytes_parent? hparent) hempty, h]

/-- How the directory of a path with steps starts. -/
structure DirectoryOf (p dir : Path) : Prop where
  isAbsolute : dir.isAbsolute = p.isAbsolute
  /-- Two slashes stay in front only where a step stays behind them. -/
  opensDouble : dir.opensDouble ↔ p.opensDouble ∧ p.steps.dropLast ≠ []

theorem directoryOf {p : Path} (h : p.steps ≠ []) : DirectoryOf p (p.parent?.getD empty) := by
  obtain ⟨n, hn⟩ := List.exists_mem_of_ne_nil _ h
  obtain ⟨dir, hdir⟩ := exists_parent?_of_mem_steps hn
  obtain ⟨hsteps, htop⟩ := steps_of_parent? hdir
  have habs : dir.isAbsolute = p.isAbsolute := by
    cases hp : p.isAbsolute with
    | true => exact isAbsolute_parent? hdir hp
    | false =>
      have hrelative := isAbsolute_directory_of_relative hp
      rwa [hdir, Option.getD_some] at hrelative
  rw [hdir, Option.getD_some]
  refine ⟨habs, ?_⟩
  rw [← hsteps]
  by_cases hnil : dir.steps = []
  · refine iff_of_false (fun hdouble => ?_) fun hboth => hboth.2 hnil
    rw [htop (habs ▸ isAbsolute_of_opensDouble hdouble) hnil] at hdouble
    cases hdouble
  · rw [opensDouble_iff, opensDouble_iff, slashes_eq_of_isPrefix (bytes_parent? hdir) hnil,
      and_iff_left hnil]

/-! ## Following a path from there -/

section

variable {base rel : Path}

theorem steps_join (h : rel.isAbsolute = false) : (base.join rel).steps = base.steps ++ rel.steps := by
  rw [steps_eq_filter_names, names_join base rel h, List.filter_append, ← steps_eq_filter_names,
    ← steps_eq_filter_names]

theorem opensDouble_join (h : rel.isAbsolute = false) :
    (base.join rel).opensDouble = base.opensDouble := by
  rw [Bool.eq_iff_iff, opensDouble_iff, opensDouble_iff, slashes_join base h]

theorem endsInSlash_join (hne : rel ≠ empty) : (base.join rel).endsInSlash = rel.endsInSlash := by
  have hbytes : rel.bytes ≠ [] := fun hnil => hne (congrArg Path.mk hnil)
  obtain ⟨front, last, hlast⟩ := (List.eq_nil_or_concat' rel.bytes).resolve_left hbytes
  rw [join]
  split
  · rfl
  · split <;> simp [endsInSlash, hlast, List.getLast?_cons]

theorem join_ne_empty (hne : rel ≠ empty) : base.join rel ≠ empty := by
  have hbytes : rel.bytes ≠ [] := fun hnil => hne (congrArg Path.mk hnil)
  intro hempty
  have hnil := congrArg bytes hempty
  rw [join] at hnil
  split at hnil
  · exact hbytes hnil
  · split at hnil <;> simp [empty, hbytes] at hnil

end

theorem steps_beside {file rel : Path} (h : rel.isAbsolute = false) :
    (file.beside rel).steps = file.steps.dropLast ++ rel.steps := by
  rw [beside, steps_join h, steps_directory]

theorem stepsFrom_beside {cwd file rel : Path} (hfile : file.steps ≠ [])
    (hrel : rel.isAbsolute = false) :
    stepsFrom cwd (file.beside rel) = (stepsFrom cwd file).dropLast ++ rel.steps := by
  rw [stepsFrom, stepsFrom, steps_beside hrel, beside, isAbsolute_join _ _ hrel,
    (directoryOf hfile).isAbsolute, ← List.append_assoc, List.dropLast_append_of_ne_nil hfile]

theorem beside_ne_empty {file rel : Path} (hne : rel ≠ empty) : file.beside rel ≠ empty :=
  join_ne_empty hne

/-- The absolute form of what stands beside a file, from that of the file. -/
theorem absolute?_beside {cwd file rel : Path} (hcwd : cwd.Settled) (hfile : file.steps ≠ [])
    (hrel : rel.isAbsolute = false) (hne : rel ≠ empty) :
    absolute? cwd (file.beside rel)
      = some (stepped (if (stepsFrom cwd file).dropLast = [] then top else file.rootOf)
          ((stepsFrom cwd file).dropLast ++ rel.steps) rel.endsInSlash) := by
  have hdir := directoryOf hfile
  have hroot : (file.beside rel).rootOf
      = if (stepsFrom cwd file).dropLast = [] then top else file.rootOf := by
    rw [rootOf, beside, opensDouble_join hrel, rootOf]
    by_cases hdouble : file.opensDouble
    · have hlast : (stepsFrom cwd file).dropLast = file.steps.dropLast := by
        rw [stepsFrom, if_pos (isAbsolute_of_opensDouble hdouble), List.nil_append]
      simp only [hdir.opensDouble, hdouble, hlast, true_and, if_true, ne_eq, ite_not]
    · simp only [hdir.opensDouble, hdouble, false_and, if_false, ite_self, Bool.false_eq_true]
  have hends : (file.beside rel).endsInSlash = rel.endsInSlash := endsInSlash_join hne
  rw [absolute?_eq_rootOf hcwd (beside_ne_empty hne), stepsFrom_beside hfile hrel, hroot, hends]

/-- Spellings of one file lead to one place beside it, as long as each has a step. -/
theorem absolute_beside {cwd p q rel : Path} (hcwd : cwd.Settled) (hp : p.steps ≠ [])
    (hq : q.steps ≠ []) (h : absolute cwd q = absolute cwd p) (hrel : rel ≠ empty) :
    absolute cwd (q.beside rel) = absolute cwd (p.beside rel) := by
  by_cases habs : rel.isAbsolute
  · rw [beside, beside, join, if_pos habs, join, if_pos habs]
  · have hrelative : rel.isAbsolute = false := Bool.eq_false_iff.2 habs
    obtain ⟨hroot, hsteps⟩ := parts_eq_of_absolute_eq hcwd (ne_empty_of_steps hp) h
    rw [absolute, absolute, absolute?_beside hcwd hq hrelative hrel,
      absolute?_beside hcwd hp hrelative hrel, hroot, hsteps, Option.getD_some,
      Option.getD_some]

/-! ## Spellings without a step -/

/-- Of a path that has steps, a spelling without one is the current directory by
    dots alone, and the path spells that directory in full. -/
theorem steps_eq_of_absolute_eq {cwd p q : Path} (hcwd : cwd.Settled) (hp : p.steps ≠ [])
    (h : absolute cwd q = absolute cwd p) (hq : q.steps = []) :
    q.isAbsolute = false ∧ p.isAbsolute ∧ p.steps = cwd.steps := by
  have hsteps := (parts_eq_of_absolute_eq hcwd (ne_empty_of_steps hp) h).2
  rw [stepsFrom, stepsFrom, hq, List.append_nil] at hsteps
  by_cases habs : p.isAbsolute
  · rw [if_pos habs, List.nil_append] at hsteps
    split at hsteps
    · exact absurd hsteps.symm hp
    · next hrel => exact ⟨Bool.eq_false_iff.2 hrel, habs, hsteps.symm⟩
  · rw [if_neg habs] at hsteps
    have hlength := congrArg List.length hsteps
    have hpos := List.length_pos_iff.2 hp
    rw [List.length_append] at hlength
    split at hlength
    · rw [List.length_nil] at hlength
      omega
    · omega

/-- From a spelling of the current directory by dots a path leads into it, from
    its spelling in full beside it. -/
theorem absolute_beside_ne {cwd p q rel : Path} (hcwd : cwd.Settled) (hp : p.steps ≠ [])
    (hq : q.steps = []) (h : absolute cwd q = absolute cwd p) (hrel : rel.isAbsolute = false)
    (hne : rel ≠ empty) : absolute cwd (q.beside rel) ≠ absolute cwd (p.beside rel) := by
  intro hsame
  obtain ⟨hrelative, habs, hsteps⟩ := steps_eq_of_absolute_eq hcwd hp h hq
  have hinside : (absolute cwd (q.beside rel)).steps = p.steps ++ rel.steps := by
    have hplace : (q.beside rel).isAbsolute = false := by
      rw [beside, isAbsolute_join _ _ hrel, isAbsolute_directory_of_relative hrelative]
    rw [steps_absolute hcwd (beside_ne_empty hne), stepsFrom, hplace, steps_beside hrel, hq, hsteps]
    rfl
  have houtside : (absolute cwd (p.beside rel)).steps = p.steps.dropLast ++ rel.steps := by
    rw [steps_absolute hcwd (beside_ne_empty hne), stepsFrom_beside hp hrel, stepsFrom, if_pos habs,
      List.nil_append]
  rw [hsame, houtside] at hinside
  have hlength := congrArg List.length (List.append_cancel_right hinside)
  have hpos := List.length_pos_iff.2 hp
  rw [List.length_dropLast] at hlength
  omega

/-- Spellings of one file that have steps give it one name. -/
theorem fileName?_eq_of_absolute_eq {cwd p q : Path} (hcwd : cwd.Settled) (hp : p.steps ≠ [])
    (hq : q.steps ≠ []) (h : absolute cwd q = absolute cwd p) : q.fileName? = p.fileName? := by
  have hlast := congrArg List.getLast? (parts_eq_of_absolute_eq hcwd (ne_empty_of_steps hp) h).2
  rw [stepsFrom, stepsFrom, List.getLast?_append_of_ne_nil _ hq,
    List.getLast?_append_of_ne_nil _ hp] at hlast
  rw [fileName?, fileName?, hlast]

/-- A spelling of a named file lacks the name just if it has no step. -/
theorem isSome_fileName?_iff {cwd p q : Path} (hcwd : cwd.Settled) (hp : p.fileName?.isSome)
    (h : absolute cwd q = absolute cwd p) : q.fileName?.isSome ↔ q.steps ≠ [] := by
  refine ⟨steps_ne_nil_of_fileName?, fun hq => ?_⟩
  rwa [fileName?_eq_of_absolute_eq hcwd (steps_ne_nil_of_fileName? hp) hq h]

end ClassAtlas.Path
