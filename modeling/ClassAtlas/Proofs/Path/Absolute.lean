import Mathlib.Data.List.TakeWhile
import ClassAtlas.Path.Uri
import ClassAtlas.Proofs.Path.Steps

/-! # Absolute forms

    Seen from a directory that is spelled plainly, the absolute form of a path
    is one slash or two, then steps with one slash between any two, and a slash
    at the end if the path had one.  Such a path is its own absolute form, so
    that to make a path absolute twice is to do it once
    (`Path.absolute_absolute`), and its link stays the same.
-/

namespace ClassAtlas.Path

/-! ## Slashes in front -/

/-- The slashes in front of a path. -/
def slashes (p : Path) : Bytes := p.bytes.takeWhile (· == slash)

theorem opensDouble_iff {p : Path} : p.opensDouble ↔ p.slashes = [slash, slash] := by
  unfold opensDouble slashes
  match p.bytes with
  | [] => simp
  | [a] => by_cases ha : a = slash <;> simp [ha, List.isPrefixOf]
  | [a, b] =>
    by_cases ha : a = slash <;> by_cases hb : b = slash <;>
      simp [ha, hb, List.isPrefixOf, @eq_comm _ slash]
  | a :: b :: c :: more =>
    by_cases ha : a = slash <;> by_cases hb : b = slash <;> by_cases hc : c = slash <;>
      simp [ha, hb, hc, List.isPrefixOf, @eq_comm _ slash]

/-- A path of nothing but slashes ends in one. -/
theorem endsInSlash_of_slashes_eq {p : Path} (hne : p.bytes ≠ []) (h : p.slashes = p.bytes) :
    p.endsInSlash := by
  have hall := List.takeWhile_eq_self_iff.1 h
  rw [endsInSlash, List.getLast?_eq_some_getLast hne,
    eq_of_beq (hall _ (List.getLast_mem hne))]
  rfl

theorem slashes_of_not_isAbsolute {p : Path} (h : p.isAbsolute = false) : p.slashes = [] := by
  unfold isAbsolute at h
  unfold slashes
  cases hbytes : p.bytes with
  | nil => rfl
  | cons b bs =>
    have hb : b ≠ slash := by simpa [hbytes] using h
    rw [List.takeWhile_cons_of_neg (by simpa using hb)]

/-- What comes behind adds no slash in front. -/
theorem slashes_join (base : Path) {rel : Path} (h : rel.isAbsolute = false) :
    (base.join rel).slashes = base.slashes := by
  rw [join, if_neg (by simp [h])]
  by_cases hall : base.slashes = base.bytes
  · -- then the base is empty or ends in a slash, and the other follows at once
    have hends : base.bytes = [] ∨ base.endsInSlash := by
      by_cases hne : base.bytes = []
      · exact .inl hne
      · exact .inr (endsInSlash_of_slashes_eq hne hall)
    have hrel : rel.bytes.takeWhile (· == slash) = [] := slashes_of_not_isAbsolute h
    rw [if_pos hends, slashes, List.takeWhile_append, ← slashes, hall, if_pos rfl, hrel,
      List.append_nil]
  · have hlength : (base.bytes.takeWhile (· == slash)).length ≠ base.bytes.length :=
      fun heq => hall ((List.takeWhile_prefix _).eq_of_length heq)
    split <;> rw [slashes, List.takeWhile_append, if_neg hlength, slashes]

theorem slashes_child (base : Path) {n : Name} (h : slash ∉ n) :
    (base.child n).slashes = base.slashes :=
  slashes_join base (isAbsolute_mk_eq_false h)

theorem slashes_foldl_child (base : Path) {names : List Name} (h : ∀ n ∈ names, slash ∉ n) :
    (names.foldl child base).slashes = base.slashes := by
  induction names generalizing base with
  | nil => rfl
  | cons n names ih =>
    obtain ⟨hn, hnames⟩ := List.forall_mem_cons.1 h
    rw [List.foldl_cons, ih _ hnames, slashes_child _ hn]

/-! ## A slash at the end -/

theorem child_nil_of_endsInSlash {p : Path} (h : p.endsInSlash) : p.child [] = p := by
  rw [child, join, if_neg (by decide), if_pos (.inr h), List.append_nil]

theorem endsInSlash_child_nil {p : Path} (h : p.bytes ≠ []) : (p.child []).endsInSlash := by
  by_cases hends : p.endsInSlash
  · rw [child_nil_of_endsInSlash hends]
    exact hends
  · rw [child, join, if_neg (by decide), if_neg (not_or.2 ⟨h, hends⟩), endsInSlash]
    simp

theorem not_endsInSlash_child (base : Path) {n : Name} (h : slash ∉ n) (hne : n ≠ []) :
    ¬ (base.child n).endsInSlash := by
  have hlast : (base.child n).bytes.getLast? = some (n.getLast hne) := by
    rw [child, join, if_neg (by simp [isAbsolute_mk_eq_false h])]
    split <;> simp [List.getLast?_append, List.getLast?_cons, List.getLast?_eq_some_getLast hne]
  rw [endsInSlash, hlast]
  intro heq
  apply h
  rw [← Option.some.inj (eq_of_beq heq)]
  exact List.getLast_mem hne

/-! ## Plainly spelled directories -/

/-- A directory's path as the system gives it: one slash in front of every step
    and nothing else, or the top directory. -/
def Settled (p : Path) : Prop :=
  p = top ∨ p.isAbsolute ∧ ∀ n ∈ (cut p.bytes).2, ¬ isIdle n

instance (p : Path) : Decidable p.Settled := inferInstanceAs (Decidable (_ ∨ _))

theorem Settled.isAbsolute {p : Path} (h : p.Settled) : p.isAbsolute := by
  rcases h with rfl | h
  · rfl
  · exact h.1

theorem bytes_foldl_child {base : Path} (hne : base.bytes ≠ []) (hends : ¬ base.endsInSlash)
    {names : List Name} (h : ∀ n ∈ names, slash ∉ n ∧ n ≠ []) :
    (names.foldl child base).bytes = base.bytes ++ names.flatMap (slash :: ·) := by
  induction names generalizing base with
  | nil => simp
  | cons n names ih =>
    obtain ⟨⟨hslash, hn⟩, hnames⟩ := List.forall_mem_cons.1 h
    have hchild : (base.child n).bytes = base.bytes ++ slash :: n := by
      rw [child, join, if_neg (by simp [isAbsolute_mk_eq_false hslash]),
        if_neg (not_or.2 ⟨hne, hends⟩)]
    have hlast := not_endsInSlash_child base hslash hn
    rw [List.foldl_cons, ih (by simp [hchild]) hlast hnames, hchild, List.flatMap_cons,
      List.append_assoc]

/-- A settled path is spelled by its steps. -/
theorem Settled.foldl_steps {p : Path} (h : p.Settled) : p.steps.foldl child top = p := by
  rcases h with rfl | ⟨habs, hsteps⟩
  · rfl
  · have hfirst := cut_fst_of_isAbsolute habs
    have hnames : p.steps = (cut p.bytes).2 := by
      rw [steps, hfirst, List.filter_cons_of_neg (by decide)]
      exact List.filter_eq_self.2 fun n hn => by simpa using hsteps n hn
    have hclean : ∀ n ∈ p.steps, slash ∉ n ∧ n ≠ [] := fun n hn =>
      ⟨slash_not_mem_of_mem_steps hn, (not_isIdle_of_mem_steps hn).1⟩
    have hpaste : paste [] p.steps = p.bytes := by
      rw [hnames, ← hfirst, paste_cut]
    cases hcons : p.steps with
    | nil =>
      rw [hcons] at hpaste
      rw [Path.isAbsolute, ← hpaste] at habs
      cases habs
    | cons n names =>
      rw [hcons] at hclean hpaste
      obtain ⟨⟨hslash, hne⟩, hmore⟩ := List.forall_mem_cons.1 hclean
      -- the first step stands behind the slash of the top directory
      have hfirst : (top.child n).bytes = slash :: n := by
        rw [child, join, if_neg (by simp [isAbsolute_mk_eq_false hslash]), if_pos (.inr rfl)]
        rfl
      have hbytes := bytes_foldl_child (by simp [hfirst]) (not_endsInSlash_child top hslash hne)
        hmore
      have heq : (names.foldl child (top.child n)).bytes = p.bytes := by
        rw [hbytes, hfirst, ← hpaste]
        rfl
      exact congrArg Path.mk heq

/-! ## Absolute forms -/

/-- Steps from a root, and a slash behind them if the path is to be closed. -/
def stepped (root : Path) (names : List Name) (closed : Bool) : Path :=
  if closed then (names.foldl child root).child [] else names.foldl child root

theorem absolute?_eq_stepped {cwd p : Path} (h : p ≠ empty) :
    absolute? cwd p = some (stepped (origin cwd p) p.steps p.endsInSlash) := by
  rw [absolute?, if_neg h]
  rfl

section

variable {root : Path} {names : List Name}

theorem slashes_stepped (h : ∀ n ∈ names, slash ∉ n) (closed : Bool) :
    (stepped root names closed).slashes = root.slashes := by
  unfold stepped
  split
  · rw [slashes_child _ List.not_mem_nil, slashes_foldl_child _ h]
  · exact slashes_foldl_child _ h

theorem isAbsolute_stepped (h : ∀ n ∈ names, slash ∉ n) (closed : Bool) :
    (stepped root names closed).isAbsolute = root.isAbsolute := by
  unfold stepped
  split
  · rw [isAbsolute_child _ List.not_mem_nil, isAbsolute_foldl_child _ h]
  · exact isAbsolute_foldl_child _ h

theorem names_stepped (h : ∀ n ∈ names, slash ∉ n ∧ n ≠ []) (closed : Bool) :
    (stepped root names closed).names = root.names ++ names := by
  have hnil : (Path.mk []).names = [] := rfl
  unfold stepped
  split
  · rw [child, names_join _ _ rfl, hnil, List.append_nil, names_foldl_child _ h]
  · exact names_foldl_child _ h

/-- The slash at the end shows whether the path is closed, if that matters. -/
theorem stepped_endsInSlash (hroot : root.isAbsolute) (h : ∀ n ∈ names, slash ∉ n)
    (closed : Bool) :
    stepped root names (stepped root names closed).endsInSlash = stepped root names closed := by
  have habs : (names.foldl child root).isAbsolute := by
    rw [isAbsolute_foldl_child _ h, hroot]
  have hne : (names.foldl child root).bytes ≠ [] := by
    intro hnil
    rw [isAbsolute, hnil] at habs
    cases habs
  cases closed with
  | true =>
    have hends : (stepped root names true).endsInSlash := endsInSlash_child_nil hne
    rw [hends]
  | false =>
    by_cases hends : (names.foldl child root).endsInSlash
    · rw [stepped, stepped, if_neg Bool.false_ne_true, if_pos hends, child_nil_of_endsInSlash hends]
    · rw [stepped, stepped, if_neg Bool.false_ne_true, if_neg hends]

/-- What the steps of a path look like. -/
def Clean (names : List Name) : Prop := ∀ n ∈ names, slash ∉ n ∧ ¬ isIdle n

theorem clean_steps (p : Path) : Clean p.steps := fun _ hn =>
  ⟨slash_not_mem_of_mem_steps hn, by simpa using (List.mem_filter.1 hn).2⟩

theorem Clean.of_isPrefix {front : List Name} (h : Clean names) (hfront : front <+: names) :
    Clean front := fun n hn => h n (hfront.subset hn)

theorem Clean.ne_nil (h : Clean names) : ∀ n ∈ names, slash ∉ n ∧ n ≠ [] := fun n hn =>
  ⟨(h n hn).1, fun hnil => (h n hn).2 (by rw [hnil]; rfl)⟩

theorem Clean.slash (h : Clean names) : ∀ n ∈ names, Path.slash ∉ n := fun n hn => (h n hn).1

/-- What the steps of an absolute form are counted from: one slash or two. -/
def IsRoot (root : Path) : Prop := root = top ∨ root = ⟨[slash, slash]⟩

theorem IsRoot.isAbsolute (h : IsRoot root) : root.isAbsolute := by
  rcases h with rfl | rfl <;> rfl

theorem steps_stepped (hroot : IsRoot root) (h : Clean names) (closed : Bool) :
    (stepped root names closed).steps = names := by
  have hrootNames : root.names = [] := by
    rcases hroot with rfl | rfl <;> rfl
  rw [steps_eq_filter_names, names_stepped h.ne_nil, hrootNames, List.nil_append]
  refine List.filter_eq_self.2 fun n hn => ?_
  have hidle := (h n hn).2
  simp only [isIdle, Bool.or_eq_true, beq_iff_eq, not_or] at hidle
  exact decide_eq_true hidle.2

/-- A path of steps from one slash or from two is its own absolute form. -/
theorem absolute?_stepped (hroot : IsRoot root) (h : Clean names) (cwd : Path) (closed : Bool) :
    absolute? cwd (stepped root names closed) = some (stepped root names closed) := by
  have habs : (stepped root names closed).isAbsolute := by
    rw [isAbsolute_stepped h.slash, hroot.isAbsolute]
  have hnonempty : stepped root names closed ≠ empty := by
    intro heq
    rw [heq] at habs
    cases habs
  have horigin : origin cwd (stepped root names closed) = root := by
    have hdouble := opensDouble_iff (p := stepped root names closed)
    rw [slashes_stepped h.slash] at hdouble
    rw [origin, if_pos habs]
    rcases hroot with rfl | rfl
    · rw [if_neg (mt hdouble.1 (by decide))]
    · rw [if_pos (hdouble.2 rfl)]
  rw [absolute?_eq_stepped hnonempty, horigin, steps_stepped hroot h,
    stepped_endsInSlash hroot.isAbsolute h.slash]

end

/-- Whatever a path starts from, its absolute form is counted from slashes. -/
theorem exists_stepped {cwd : Path} (hcwd : cwd.steps.foldl child top = cwd) {p : Path}
    (hp : p ≠ empty) : ∃ root names closed, IsRoot root ∧ Clean names
      ∧ absolute? cwd p = some (stepped root names closed) := by
  rw [absolute?_eq_stepped hp, origin]
  by_cases habs : p.isAbsolute
  · rw [if_pos habs]
    by_cases hdouble : p.opensDouble
    · rw [if_pos hdouble]
      exact ⟨_, _, _, .inr rfl, clean_steps p, rfl⟩
    · rw [if_neg hdouble]
      exact ⟨_, _, _, .inl rfl, clean_steps p, rfl⟩
  · refine ⟨top, cwd.steps ++ p.steps, p.endsInSlash, .inl rfl, fun n hn => ?_, ?_⟩
    · rcases List.mem_append.1 hn with hn | hn
      · exact clean_steps cwd n hn
      · exact clean_steps p n hn
    · rw [if_neg habs, stepped, stepped, List.foldl_append, hcwd]

/-- To make a path absolute twice is to do it once. -/
theorem absolute_absolute {cwd : Path} (hcwd : cwd.Settled) (p : Path) :
    absolute cwd (absolute cwd p) = absolute cwd p := by
  by_cases hempty : p = empty
  · rw [hempty]
    rfl
  obtain ⟨root, names, closed, hroot, hnames, hform⟩ := exists_stepped hcwd.foldl_steps hempty
  rw [absolute, absolute, hform, Option.getD_some, absolute?_stepped hroot hnames,
    Option.getD_some]

end ClassAtlas.Path

namespace ClassAtlas.Uri

/-- A file has one link, whether its path was made absolute before or not. -/
theorem ofPath_absolute {cwd : Path} (hcwd : cwd.Settled) (p : Path) :
    ofPath cwd (Path.absolute cwd p) = ofPath cwd p := by
  rw [ofPath, ofPath, Path.absolute_absolute hcwd]

end ClassAtlas.Uri
