import Mathlib.Data.List.Induction
import Mathlib.Data.List.Infix
import ClassAtlas.Proofs.Path.Absolute

/-! # Paths above a path

    Climbing cuts bytes off the end of a path, among them one name at least.
    An absolute form loses just its last step, so the paths above it are those
    of the first parts of its steps (`Path.mem_ancestors_stepped_iff`); they are
    the directories whose text begins its own (`Path.encloses_stepped_iff`).
-/

namespace ClassAtlas

/-- A first part of two lists in a row ends in the first or in the second. -/
theorem isPrefix_append_cases {α : Type} {way xs ys : List α} (h : way <+: xs ++ ys) :
    way <+: xs ∨ ∃ more, more <+: ys ∧ way = xs ++ more := by
  rcases List.prefix_or_prefix_of_prefix h (List.prefix_append xs ys) with hsooner | ⟨more, rfl⟩
  · exact .inl hsooner
  · exact .inr ⟨more, (List.prefix_append_right_inj xs).1 h, rfl⟩

namespace Path

/-! ## One step up -/

/-- The names behind the last step are lost with it; what is kept comes before. -/
theorem exists_kept {more : List Name} (h : trim more ≠ []) :
    ∃ lost, more = trim (trim more).dropLast ++ lost ∧ ∃ n ∈ lost, n ≠ [] := by
  obtain ⟨idle, hidle⟩ := trim_isPrefix more
  obtain ⟨skipped, hskipped⟩ := trim_isPrefix (trim more).dropLast
  refine ⟨skipped ++ (trim more).getLast h :: idle, ?_, _, by simp, getLast_trim_ne_nil h⟩
  calc more = trim more ++ idle := hidle.symm
    _ = ((trim more).dropLast ++ [(trim more).getLast h]) ++ idle := by
        rw [List.dropLast_concat_getLast]
    _ = ((trim (trim more).dropLast ++ skipped) ++ [(trim more).getLast h]) ++ idle := by
        rw [hskipped]
    _ = _ := by simp

theorem bytes_parent? {p q : Path} (h : p.parent? = some q) : q.bytes <+: p.bytes := by
  have hbytes := paste_cut p.bytes
  cases climbs_of_parent? h with
  | fromFirst => exact List.nil_prefix
  | toTop hnamed hkept hfirst =>
    obtain ⟨lost, hmore, n, hn, -⟩ := exists_kept hnamed
    obtain ⟨m, ms, rfl⟩ := List.exists_cons_of_ne_nil (List.ne_nil_of_mem hn)
    rw [← hbytes, hfirst, hmore, hkept]
    exact ⟨m ++ ms.flatMap (slash :: ·), rfl⟩
  | toKept hnamed =>
    obtain ⟨lost, hmore, -⟩ := exists_kept hnamed
    refine ⟨lost.flatMap (slash :: ·), ?_⟩
    calc paste (cut p.bytes).1 (trim (trim (cut p.bytes).2).dropLast) ++ lost.flatMap (slash :: ·)
      _ = paste (cut p.bytes).1 (trim (trim (cut p.bytes).2).dropLast ++ lost) := by simp [paste]
      _ = p.bytes := by rw [← hmore, hbytes]

theorem names_parent? {p q : Path} (h : p.parent? = some q) :
    ∃ below, below ≠ [] ∧ p.names = q.names ++ below := by
  rw [names_eq p, segments]
  cases climbs_of_parent? h with
  | fromFirst _ hfirst =>
    refine ⟨_, ?_, (List.nil_append _).symm⟩
    rw [List.filter_cons_of_pos (by simpa using hfirst)]
    exact List.cons_ne_nil _ _
  | toTop hnamed hkept hfirst =>
    obtain ⟨lost, hmore, n, hn, hne⟩ := exists_kept hnamed
    rw [hkept, List.nil_append] at hmore
    refine ⟨_, ?_, (List.nil_append _).symm⟩
    rw [hfirst, hmore]
    exact List.ne_nil_of_mem (List.mem_filter.2 ⟨List.mem_cons_of_mem _ hn, by simpa using hne⟩)
  | toKept hnamed =>
    obtain ⟨lost, hmore, n, hn, hne⟩ := exists_kept hnamed
    refine ⟨lost.filter (! ·.isEmpty),
      List.ne_nil_of_mem (List.mem_filter.2 ⟨hn, by simpa using hne⟩), ?_⟩
    rw [names_eq, segments_kept, ← List.filter_append, List.cons_append, ← hmore]

theorem isAbsolute_eq_of_isPrefix {p q : Path} (h : q.bytes <+: p.bytes) (hq : q ≠ .empty) :
    q.isAbsolute = p.isAbsolute := by
  obtain ⟨more, hmore⟩ := h
  cases hbytes : q.bytes with
  | nil => exact absurd (congrArg Path.mk hbytes) hq
  | cons b bs =>
    rw [isAbsolute, isAbsolute, ← hmore, hbytes]
    rfl

/-! ## All the way up -/

theorem ancestors_of_parent?_eq_none {p : Path} (h : p.parent? = none) : p.ancestors = [p] := by
  rw [ancestors]
  split
  · rfl
  · next hsome =>
    rw [h] at hsome
    cases hsome

theorem ancestors_of_parent? {p q : Path} (h : p.parent? = some q) :
    p.ancestors = p :: q.ancestors := by
  rw [ancestors]
  split
  · next hnone =>
    rw [h] at hnone
    cases hnone
  · next hsome =>
    rw [h] at hsome
    cases hsome
    rfl

/-- What is further up has no more steps. -/
theorem ancestors_pairwise_steps (p : Path) :
    p.ancestors.Pairwise fun below above => above.steps <+: below.steps := by
  induction p using ancestors.induct with
  | case1 p hnone =>
    rw [ancestors_of_parent?_eq_none hnone]
    exact List.pairwise_singleton _ _
  | case2 p q hsome _ ih =>
    rw [ancestors_of_parent? hsome]
    refine List.pairwise_cons.2 ⟨fun r hr => ?_, ih⟩
    have hq := steps_parent? hsome
    -- the path above comes first among those further up
    have hfirst : ∃ above, q.ancestors = q :: above := by
      cases hparent : q.parent? with
      | none => exact ⟨_, ancestors_of_parent?_eq_none hparent⟩
      | some _ => exact ⟨_, ancestors_of_parent? hparent⟩
    obtain ⟨above, habove⟩ := hfirst
    rw [habove] at hr ih
    rcases List.mem_cons.1 hr with rfl | hr
    · exact hq
    · exact ((List.pairwise_cons.1 ih).1 r hr).trans hq

/-! ## Climbing an absolute form -/

section

variable {root : Path} {names : List Name}

/-- What stands between the slashes of a root, the last one apart. -/
def lead (root : Path) : List Name := (cut root.bytes).2.dropLast

theorem trim_append_concat (names : List Name) {n : Name} (h : ¬ isIdle n) :
    trim (names ++ [n]) = names ++ [n] := by
  rw [trim, List.reverse_append, List.reverse_singleton, List.singleton_append,
    List.dropWhile_cons_of_neg h, List.reverse_cons, List.reverse_reverse]

theorem trim_append_nil (names : List Name) : trim (names ++ [[]]) = trim names := by
  rw [trim, List.reverse_append, List.reverse_singleton, List.singleton_append,
    List.dropWhile_cons_of_pos rfl, trim]

theorem IsRoot.trim_lead (h : IsRoot root) : trim (lead root) = [] := by
  rcases h with rfl | rfl <;> rfl

theorem IsRoot.bytes_eq (h : IsRoot root) : root.bytes = paste [] (lead root) ++ [slash] := by
  rcases h with rfl | rfl <;> rfl

theorem IsRoot.bytes_ne_nil (h : IsRoot root) : root.bytes ≠ [] := by
  rcases h with rfl | rfl <;> decide

theorem IsRoot.endsInSlash (h : IsRoot root) : root.endsInSlash := by
  rcases h with rfl | rfl <;> rfl

theorem stepped_nil (h : IsRoot root) (closed : Bool) : stepped root [] closed = root := by
  cases closed with
  | false => rfl
  | true => exact child_nil_of_endsInSlash h.endsInSlash

theorem bytes_stepped_open (hroot : IsRoot root) (h : Clean names) (hne : names ≠ []) :
    (stepped root names false).bytes = paste [] (lead root ++ names) := by
  obtain ⟨n, more, rfl⟩ := List.exists_cons_of_ne_nil hne
  obtain ⟨⟨hslash, hn⟩, hmore⟩ := List.forall_mem_cons.1 h.ne_nil
  -- the root ends in a slash, so the first step follows at once
  have hfirst : (root.child n).bytes = root.bytes ++ n := by
    rw [child, join, if_neg (by simp [isAbsolute_mk_eq_false hslash]), if_pos (.inr hroot.endsInSlash)]
  have hfirstNe : (root.child n).bytes ≠ [] := by
    rw [hfirst]
    exact List.append_ne_nil_of_left_ne_nil hroot.bytes_ne_nil n
  have hbytes := bytes_foldl_child hfirstNe (not_endsInSlash_child root hslash hn) hmore
  rw [stepped, if_neg Bool.false_ne_true, List.foldl_cons, hbytes, hfirst, hroot.bytes_eq]
  simp [paste]

theorem not_endsInSlash_stepped (h : Clean names) (hne : names ≠ []) :
    ¬ (stepped root names false).endsInSlash := by
  obtain ⟨front, n, rfl⟩ := (List.eq_nil_or_concat' names).resolve_left hne
  obtain ⟨hslash, hn⟩ := h.ne_nil n (by simp)
  rw [stepped, if_neg Bool.false_ne_true, List.foldl_append]
  exact not_endsInSlash_child _ hslash hn

theorem stepped_ne_nil (hroot : IsRoot root) (h : Clean names) (closed : Bool) :
    (stepped root names closed).bytes ≠ [] := by
  intro hnil
  have habs : (stepped root names closed).isAbsolute = root.isAbsolute :=
    isAbsolute_stepped h.slash closed
  rw [hroot.isAbsolute, isAbsolute, hnil] at habs
  cases habs

theorem bytes_stepped_closed (hroot : IsRoot root) (h : Clean names) (hne : names ≠ []) :
    (stepped root names true).bytes = (stepped root names false).bytes ++ [slash] := by
  have hopen : ¬ (stepped root names false).endsInSlash := not_endsInSlash_stepped h hne
  have hclosed : stepped root names true = (stepped root names false).child [] := rfl
  rw [hclosed, child, join, if_neg (by decide),
    if_neg (not_or.2 ⟨stepped_ne_nil hroot h false, hopen⟩)]

theorem bytes_stepped (hroot : IsRoot root) (h : Clean names) (hne : names ≠ []) (closed : Bool) :
    (stepped root names closed).bytes
      = paste [] (lead root ++ names ++ if closed then [[]] else []) := by
  cases closed with
  | false => simpa using bytes_stepped_open hroot h hne
  | true =>
    rw [bytes_stepped_closed hroot h hne, bytes_stepped_open hroot h hne]
    simp [paste]

theorem cut_stepped (hroot : IsRoot root) (h : Clean names) (hne : names ≠ []) (closed : Bool) :
    cut (stepped root names closed).bytes
      = ([], lead root ++ names ++ if closed then [[]] else []) := by
  have hlead : ∀ n ∈ lead root, slash ∉ n := fun n hn =>
    (slash_not_mem_cut root.bytes).2 n (List.dropLast_subset _ hn)
  have hmore : ∀ n ∈ lead root ++ names ++ (if closed then [[]] else []), slash ∉ n := by
    intro n hn
    rcases List.mem_append.1 hn with hn | hn
    · rcases List.mem_append.1 hn with hn | hn
      · exact hlead n hn
      · exact h.slash n hn
    · cases closed with
      | false => cases hn
      | true =>
        cases List.mem_singleton.1 hn
        exact List.not_mem_nil
  have hsegments := segments_paste List.not_mem_nil hmore
  rw [← bytes_stepped hroot h hne closed, segments] at hsegments
  obtain ⟨hfirst, hrest⟩ := List.cons_eq_cons.1 hsegments
  exact Prod.ext hfirst hrest

/-- The steps from a root without a slash at the end.  Without any step that is
    the top directory, even if the root has two slashes. -/
def rooted (root : Path) (names : List Name) : Path :=
  if names = [] then top else stepped root names false

theorem parent?_stepped_nil (hroot : IsRoot root) (closed : Bool) :
    (stepped root [] closed).parent? = none := by
  rw [stepped_nil hroot]
  rcases hroot with rfl | rfl <;> rfl

/-- Climbing drops the last step, and a slash at the end. -/
theorem parent?_stepped_concat (hroot : IsRoot root) {n : Name} (h : Clean (names ++ [n]))
    (closed : Bool) :
    (stepped root (names ++ [n]) closed).parent? = some (rooted root names) := by
  have hn : ¬ isIdle n := (h n (by simp)).2
  have hnames : Clean names := h.of_isPrefix (List.prefix_append _ _)
  have hcut := cut_stepped hroot h (by simp) closed
  have hnamed : trim (lead root ++ (names ++ [n]) ++ if closed then [[]] else [])
      = lead root ++ names ++ [n] := by
    cases closed with
    | false => rw [if_neg Bool.false_ne_true, List.append_nil, ← List.append_assoc,
        trim_append_concat _ hn]
    | true => rw [if_pos rfl, trim_append_nil, ← List.append_assoc, trim_append_concat _ hn]
  have hkept : trim (lead root ++ names) = if names = [] then [] else lead root ++ names := by
    rcases (List.eq_nil_or_concat' names) with rfl | ⟨front, m, rfl⟩
    · simpa using hroot.trim_lead
    · rw [if_neg (by simp), ← List.append_assoc, trim_append_concat _ (hnames m (by simp)).2]
  rw [parent?, hcut]
  simp only [hnamed, List.dropLast_concat, hkept, rooted]
  by_cases hnil : names = []
  · simp [hnil]
  · simp only [if_neg hnil]
    rw [if_neg (by simp), if_neg (by simp [hnil]), ← bytes_stepped_open hroot hnames hnil]

/-- The paths above an absolute form take a first part of its steps. -/
theorem mem_ancestors_stepped_iff (hroot : IsRoot root) (h : Clean names) {closed : Bool} {q : Path} :
    q ∈ (stepped root names closed).ancestors
      ↔ q = stepped root names closed
        ∨ ∃ front, front <+: names ∧ front ≠ names ∧ q = rooted root front := by
  induction names using List.reverseRecOn generalizing closed with
  | nil =>
    rw [ancestors_of_parent?_eq_none (parent?_stepped_nil hroot closed), List.mem_singleton]
    refine ⟨.inl, ?_⟩
    rintro (heq | ⟨front, hfront, hne, -⟩)
    · exact heq
    · exact absurd (List.prefix_nil.1 hfront) hne
  | append_singleton names n ih =>
    have hnames : Clean names := h.of_isPrefix (List.prefix_append _ _)
    rw [ancestors_of_parent? (parent?_stepped_concat hroot h closed), List.mem_cons]
    refine or_congr_right ?_
    have hfronts : ∀ front, (front <+: names ++ [n] ∧ front ≠ names ++ [n]) ↔ front <+: names := by
      intro front
      rw [List.prefix_concat_iff]
      constructor
      · rintro ⟨heq | hfront, hne⟩
        · exact absurd heq hne
        · exact hfront
      · intro hfront
        refine ⟨.inr hfront, fun heq => ?_⟩
        have hlength := hfront.length_le
        rw [heq, List.length_append, List.length_singleton] at hlength
        omega
    simp only [← and_assoc, hfronts]
    by_cases hnil : names = []
    · subst hnil
      have htop : top.ancestors = [top] := ancestors_of_parent?_eq_none rfl
      simp [rooted, htop, List.prefix_nil]
    · rw [rooted, if_neg hnil, ih hnames]
      constructor
      · rintro (rfl | ⟨front, hfront, -, rfl⟩)
        · exact ⟨names, List.prefix_rfl, (if_neg hnil).symm⟩
        · exact ⟨front, hfront, rfl⟩
      · rintro ⟨front, hfront, rfl⟩
        by_cases heq : front = names
        · subst heq
          exact .inl (if_neg hnil)
        · exact .inr ⟨front, hfront, heq, rfl⟩

end

/-! ## Directories that enclose -/

/-- With a slash at the end, the text of one path begins that of the other: the
    directory of the first is one that the second passes, or the same. -/
def Encloses (q p : Path) : Prop := q.isAbsolute ∧ (q.child []).bytes <+: (p.child []).bytes

theorem Encloses.trans {q p r : Path} (h : q.Encloses p) (h' : p.Encloses r) : q.Encloses r :=
  ⟨h.1, h.2.trans h'.2⟩

theorem bytes_ne_nil_of_isAbsolute {p : Path} (h : p.isAbsolute) : p.bytes ≠ [] := by
  intro hnil
  rw [isAbsolute, hnil] at h
  cases h

/-- A slash is put at the end where there is none. -/
theorem child_nil_cases {p : Path} (h : p.bytes ≠ []) :
    p.child [] = p ∨ (p.child []).bytes = p.bytes ++ [slash] := by
  by_cases hends : p.endsInSlash
  · exact .inl (child_nil_of_endsInSlash hends)
  · right
    rw [child, join, if_neg (by decide), if_neg (not_or.2 ⟨h, hends⟩)]

/-- A name follows the slash at the end as it follows the path without it. -/
theorem join_child_nil {p rel : Path} (h : p.bytes ≠ []) (hrel : rel.isAbsolute = false) :
    (p.child []).join rel = p.join rel := by
  by_cases hends : p.endsInSlash
  · rw [child_nil_of_endsInSlash hends]
  · have hclosed : (p.child []).bytes = p.bytes ++ [slash] := by
      rw [child, join, if_neg (by decide), if_neg (not_or.2 ⟨h, hends⟩)]
    rw [join, join]
    simp only [hrel, Bool.false_eq_true, if_false]
    rw [if_pos (.inr (endsInSlash_child_nil h)), if_neg (not_or.2 ⟨h, hends⟩), hclosed]
    simp

section

variable {root : Path} {names : List Name}

theorem child_nil_stepped (hroot : IsRoot root) (h : Clean names) (closed : Bool) :
    (stepped root names closed).child [] = stepped root names true := by
  cases closed with
  | false => rfl
  | true =>
    exact child_nil_of_endsInSlash (endsInSlash_child_nil (stepped_ne_nil hroot h false))

theorem bytes_stepped_concat (hroot : IsRoot root) {n : Name} (h : Clean (names ++ [n])) :
    (stepped root (names ++ [n]) true).bytes = (stepped root names true).bytes ++ (n ++ [slash]) := by
  have hnames : Clean names := h.of_isPrefix (List.prefix_append _ _)
  have hn : (Path.mk n).isAbsolute = false := isAbsolute_mk_eq_false (h n (by simp)).1
  have hne := stepped_ne_nil hroot hnames false
  have hstep : stepped root (names ++ [n]) false = (stepped root names true).child n := by
    have hclosed : stepped root names true = (stepped root names false).child [] := rfl
    rw [hclosed, child, join_child_nil hne hn, stepped, if_neg Bool.false_ne_true,
      List.foldl_append]
    rfl
  rw [bytes_stepped_closed hroot h (by simp), hstep, child, join, if_neg (by simp [hn]),
    if_pos (.inr (endsInSlash_child_nil hne)), List.append_assoc]

theorem bytes_stepped_isPrefix (hroot : IsRoot root) (h : Clean names) {front : List Name}
    (hfront : front <+: names) : (stepped root front true).bytes <+: (stepped root names true).bytes := by
  induction names using List.reverseRecOn with
  | nil =>
    cases List.prefix_nil.1 hfront
    exact List.prefix_rfl
  | append_singleton names n ih =>
    rcases List.prefix_concat_iff.1 hfront with rfl | hfront
    · exact List.prefix_rfl
    · have hnames : Clean names := h.of_isPrefix (List.prefix_append _ _)
      rw [bytes_stepped_concat hroot h]
      exact (ih hnames hfront).trans (List.prefix_append _ _)

/-- Cut behind a slash, the text of an absolute form is that of a first part of
    its steps, or a slash alone. -/
theorem eq_bytes_of_isPrefix (hroot : IsRoot root) (h : Clean names) {xs : Bytes}
    (hxs : xs.getLast? = some slash) (hbegins : xs <+: (stepped root names true).bytes) :
    xs = [slash] ∨ ∃ front, front <+: names ∧ xs = (stepped root front true).bytes := by
  induction names using List.reverseRecOn with
  | nil =>
    have hnil := stepped_nil hroot true
    rw [hnil] at hbegins
    by_cases hall : xs = root.bytes
    · exact .inr ⟨[], List.prefix_rfl, by rw [hall, hnil]⟩
    · left
      rcases hroot with rfl | rfl
      · rcases List.prefix_concat_iff.1 (show xs <+: [] ++ [slash] from hbegins) with rfl | hnil
        · rfl
        · cases List.prefix_nil.1 hnil
          cases hxs
      · rcases List.prefix_concat_iff.1 (show xs <+: [slash] ++ [slash] from hbegins) with rfl | hone
        · exact absurd rfl hall
        · rcases List.prefix_concat_iff.1 (show xs <+: [] ++ [slash] from hone) with rfl | hnil
          · rfl
          · cases List.prefix_nil.1 hnil
            cases hxs
  | append_singleton names n ih =>
    have hnames : Clean names := h.of_isPrefix (List.prefix_append _ _)
    rw [bytes_stepped_concat hroot h, ← List.append_assoc, List.prefix_concat_iff] at hbegins
    rcases hbegins with rfl | hbegins
    · exact .inr ⟨_, List.prefix_rfl, by rw [bytes_stepped_concat hroot h, List.append_assoc]⟩
    · rcases isPrefix_append_cases hbegins with hbegins | ⟨more, hmore, rfl⟩
      · obtain hone | ⟨front, hfront, heq⟩ := ih hnames hbegins
        · exact .inl hone
        · exact .inr ⟨front, hfront.trans (List.prefix_append _ _), heq⟩
      · -- no slash stands in the name
        cases hlast : more.getLast? with
        | none =>
          rw [List.getLast?_eq_none_iff] at hlast
          exact .inr ⟨names, List.prefix_append _ _, by rw [hlast, List.append_nil]⟩
        | some b =>
          rw [List.getLast?_append, hlast] at hxs
          cases hxs
          exact absurd (hmore.subset (List.mem_of_getLast? hlast)) (h n (by simp)).1

/-- The directories that enclose an absolute form are those of a first part of
    its steps, spelled with a slash at the end or without. -/
theorem encloses_stepped_iff (hroot : IsRoot root) (h : Clean names) {closed : Bool} {q : Path} :
    q.Encloses (stepped root names closed)
      ↔ q = top ∨ ∃ front slashed, front <+: names ∧ q = stepped root front slashed := by
  constructor
  · rintro ⟨habs, hbegins⟩
    have hne := bytes_ne_nil_of_isAbsolute habs
    rw [child_nil_stepped hroot h] at hbegins
    have hlast : (q.child []).bytes.getLast? = some slash := eq_of_beq (endsInSlash_child_nil hne)
    rcases eq_bytes_of_isPrefix hroot h hlast hbegins with hone | ⟨front, hfront, heq⟩
    · rcases child_nil_cases hne with hq | hq
      · rw [hq] at hone
        exact .inl (congrArg Path.mk hone)
      · rw [hq] at hone
        exact absurd (List.append_cancel_right (hone.trans (List.nil_append _).symm)) hne
    · rcases child_nil_cases hne with hq | hq
      · rw [hq] at heq
        exact .inr ⟨front, true, hfront, congrArg Path.mk heq⟩
      · rw [hq] at heq
        by_cases hnil : front = []
        · subst hnil
          left
          rw [stepped_nil hroot] at heq
          rcases hroot with rfl | rfl
          · exact absurd (List.append_cancel_right (heq.trans (List.nil_append _).symm)) hne
          · exact congrArg Path.mk (List.append_cancel_right
              (heq.trans (show [slash, slash] = [slash] ++ [slash] from rfl)))
        · rw [bytes_stepped_closed hroot (h.of_isPrefix hfront) hnil] at heq
          exact .inr ⟨front, false, hfront, congrArg Path.mk (List.append_cancel_right heq)⟩
  · rintro (rfl | ⟨front, slashed, hfront, rfl⟩)
    · refine ⟨rfl, ?_⟩
      rw [child_nil_stepped hroot h]
      refine List.IsPrefix.trans ?_ (bytes_stepped_isPrefix hroot h List.nil_prefix)
      rw [stepped_nil hroot]
      rcases hroot with rfl | rfl
      · exact List.prefix_rfl
      · exact ⟨[slash], rfl⟩
    · refine ⟨?_, ?_⟩
      · rw [isAbsolute_stepped (h.of_isPrefix hfront).slash, hroot.isAbsolute]
      · rw [child_nil_stepped hroot (h.of_isPrefix hfront), child_nil_stepped hroot h]
        exact bytes_stepped_isPrefix hroot h hfront

/-- A directory that encloses an absolute form is its own absolute form. -/
theorem absolute?_of_encloses (hroot : IsRoot root) (h : Clean names) {closed : Bool} {q : Path}
    (hq : q.Encloses (stepped root names closed)) (cwd : Path) : absolute? cwd q = some q := by
  rcases (encloses_stepped_iff hroot h).1 hq with rfl | ⟨front, slashed, hfront, rfl⟩
  · exact absolute?_stepped (.inl rfl) (List.forall_mem_nil _) cwd false
  · exact absolute?_stepped hroot (h.of_isPrefix hfront) cwd slashed

end

end Path

end ClassAtlas
