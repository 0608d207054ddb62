import ClassAtlas.Proofs.Path.Climbing

/-! # The nearest directory above

    Climbing from an absolute form until a test succeeds finds, of the
    directories whose path begins the form, the longest with the property that
    is tested (`Path.find?_ancestors_eq_some_iff`).  What is nearest from a path
    is nearest from every path between the two (`Path.Nearest.between`).
-/

namespace ClassAtlas.Path

/-- Of the directories that enclose a path and have a property, the one with the
    most steps.  It is spelled like the path if it is the same directory, and
    otherwise without a slash at the end, unless it is the top. -/
structure Nearest (holds : Path → Prop) (a r : Path) : Prop where
  encloses : r.Encloses a
  here : holds r
  longest : ∀ q, q.Encloses a → holds q → q.steps.length ≤ r.steps.length
  spelled : r = a ∨ r.steps ≠ a.steps ∧ (r = top ∨ ¬ r.endsInSlash)

/-- The property is one of directories, however many slashes are at the end of
    their path, or in front of nothing. -/
structure OfDirectories (holds : Path → Prop) : Prop where
  closed : ∀ p, p.isAbsolute → (holds (p.child []) ↔ holds p)
  top : holds ⟨[slash, slash]⟩ ↔ holds .top

section

variable {holds : Path → Prop} {root : Path} {names front : List Name} {closed : Bool}

theorem OfDirectories.stepped_iff (hholds : OfDirectories holds) (hroot : IsRoot root)
    (h : Clean names) (closed : Bool) :
    holds (stepped root names closed) ↔ holds (rooted root names) := by
  by_cases hnil : names = []
  · subst hnil
    rw [stepped_nil hroot, rooted, if_pos rfl]
    rcases hroot with rfl | rfl
    · rfl
    · exact hholds.top
  · rw [rooted, if_neg hnil]
    cases closed with
    | false => rfl
    | true =>
      refine hholds.closed (stepped root names false) ?_
      rw [isAbsolute_stepped h.slash, hroot.isAbsolute]

theorem steps_rooted (hroot : IsRoot root) (h : Clean names) : (rooted root names).steps = names := by
  unfold rooted
  split
  · next hnil => rw [hnil]; rfl
  · exact steps_stepped hroot h false

/-- A directory passed on the way down an absolute form, as it is spelled when
    one climbs. -/
def passed (root : Path) (names : List Name) (closed : Bool) (front : List Name) : Path :=
  if front = names then stepped root names closed else rooted root front

theorem steps_passed (hroot : IsRoot root) (h : Clean front) :
    (passed root names closed front).steps = front := by
  unfold passed
  split
  · next heq => subst heq; exact steps_stepped hroot h closed
  · exact steps_rooted hroot h

theorem OfDirectories.passed_iff (hholds : OfDirectories holds) (hroot : IsRoot root)
    (h : Clean front) : holds (passed root names closed front) ↔ holds (rooted root front) := by
  unfold passed
  split
  · next heq => subst heq; exact hholds.stepped_iff hroot h closed
  · rfl

theorem rooted_encloses (hroot : IsRoot root) (h : Clean names) (hfront : front <+: names) :
    (rooted root front).Encloses (stepped root names closed) := by
  rw [encloses_stepped_iff hroot h]
  unfold rooted
  split
  · exact .inl rfl
  · exact .inr ⟨front, false, hfront, rfl⟩

theorem passed_encloses (hroot : IsRoot root) (h : Clean names) (hfront : front <+: names) :
    (passed root names closed front).Encloses (stepped root names closed) := by
  unfold passed
  split
  · exact (encloses_stepped_iff hroot h).2 (.inr ⟨names, closed, List.prefix_rfl, rfl⟩)
  · exact rooted_encloses hroot h hfront

/-- No directory passed later than `front` has the property. -/
def Last (holds : Path → Prop) (root : Path) (names front : List Name) : Prop :=
  ∀ later, later <+: names → holds (rooted root later) → later.length ≤ front.length

/-- Said of the steps of an absolute form. -/
theorem nearest_stepped_iff (hholds : OfDirectories holds) (hroot : IsRoot root) (h : Clean names)
    {r : Path} :
    Nearest holds (stepped root names closed) r
      ↔ ∃ front, front <+: names ∧ r = passed root names closed front ∧ holds r
        ∧ Last holds root names front := by
  constructor
  · intro hr
    have hlast : Last holds root names r.steps := by
      intro later hlater hholdsLater
      have hle := hr.longest _ (rooted_encloses hroot h hlater) hholdsLater
      rwa [steps_rooted hroot (h.of_isPrefix hlater)] at hle
    have hsteps : ∀ {front}, r = passed root names closed front → front <+: names →
        ∃ front, front <+: names ∧ r = passed root names closed front ∧ holds r
          ∧ Last holds root names front := by
      intro front hfront hprefix
      refine ⟨front, hprefix, hfront, hr.here, ?_⟩
      rwa [hfront, steps_passed hroot (h.of_isPrefix hprefix)] at hlast
    rcases hr.spelled with rfl | ⟨hne, hspelled⟩
    · exact hsteps (if_pos rfl).symm List.prefix_rfl
    · rw [steps_stepped hroot h] at hne
      have hrooted : ∀ {front}, front <+: names → r = rooted root front →
          r = passed root names closed front := by
        rintro front hfront rfl
        rw [passed, if_neg]
        rwa [steps_rooted hroot (h.of_isPrefix hfront)] at hne
      rcases (encloses_stepped_iff hroot h).1 hr.encloses with rfl | ⟨front, slashed, hfront, rfl⟩
      · exact hsteps (hrooted List.nil_prefix rfl) List.nil_prefix
      · refine hsteps (hrooted hfront ?_) hfront
        -- neither a root of two slashes nor a slash at the end is left
        by_cases hnil : front = []
        · subst hnil
          rw [stepped_nil hroot] at hspelled ⊢
          exact hspelled.resolve_right (not_not.2 hroot.endsInSlash)
        · rw [rooted, if_neg hnil]
          cases slashed with
          | false => rfl
          | true =>
            rcases hspelled with htop | hends
            · have hsteps := steps_stepped hroot (h.of_isPrefix hfront) true
              rw [htop] at hsteps
              exact absurd hsteps.symm hnil
            · exact absurd (endsInSlash_child_nil (stepped_ne_nil hroot (h.of_isPrefix hfront) false)) hends
  · rintro ⟨front, hfront, rfl, hr, hlast⟩
    refine ⟨passed_encloses hroot h hfront, hr, ?_, ?_⟩
    · intro q hq hholdsq
      rw [steps_passed hroot (h.of_isPrefix hfront)]
      rcases (encloses_stepped_iff hroot h).1 hq with rfl | ⟨later, slashed, hlater, rfl⟩
      · exact Nat.zero_le _
      · rw [steps_stepped hroot (h.of_isPrefix hlater)]
        exact hlast later hlater ((hholds.stepped_iff hroot (h.of_isPrefix hlater) slashed).1 hholdsq)
    · by_cases heq : front = names
      · exact .inl (if_pos heq)
      · right
        rw [steps_passed hroot (h.of_isPrefix hfront), steps_stepped hroot h, passed, if_neg heq]
        refine ⟨heq, ?_⟩
        unfold rooted
        split
        · exact .inl rfl
        · next hnil => exact .inr (not_endsInSlash_stepped (h.of_isPrefix hfront) hnil)

theorem mem_ancestors_iff_passed (hroot : IsRoot root) (h : Clean names) (closed : Bool) {q : Path} :
    q ∈ (stepped root names closed).ancestors
      ↔ ∃ front, front <+: names ∧ q = passed root names closed front := by
  rw [mem_ancestors_stepped_iff hroot h]
  constructor
  · rintro (rfl | ⟨front, hfront, hne, rfl⟩)
    · exact ⟨names, List.prefix_rfl, (if_pos rfl).symm⟩
    · exact ⟨front, hfront, (if_neg hne).symm⟩
  · rintro ⟨front, hfront, rfl⟩
    by_cases heq : front = names
    · exact .inl (if_pos heq)
    · exact .inr ⟨front, hfront, heq, if_neg heq⟩

variable {test : Path → Bool} (htest : ∀ p, test p ↔ holds p) (hholds : OfDirectories holds)

include htest hholds

/-- Climbing finds the directory that is passed last. -/
theorem nearest_of_find?_ancestors (hroot : IsRoot root) (h : Clean names) {r : Path}
    (hr : (stepped root names closed).ancestors.find? test = some r) :
    Nearest holds (stepped root names closed) r := by
  obtain ⟨hrTest, before, after, hsplit, hbefore⟩ := List.find?_eq_some_iff_append.1 hr
  obtain ⟨front, hfront, rfl⟩ := (mem_ancestors_iff_passed hroot h closed).1 (List.mem_of_find?_eq_some hr)
  refine (nearest_stepped_iff hholds hroot h).2
    ⟨front, hfront, rfl, (htest _).1 hrTest, fun later hlater hlaterHolds => ?_⟩
  have hmem := (mem_ancestors_iff_passed hroot h closed).2 ⟨later, hlater, rfl⟩
  have hlaterTest : test (passed root names closed later) :=
    (htest _).2 ((hholds.passed_iff hroot (h.of_isPrefix hlater)).2 hlaterHolds)
  -- nothing before the one found will do, and what comes behind it has no more steps
  have horder := ancestors_pairwise_steps (stepped root names closed)
  rw [hsplit] at hmem horder
  have hle : (passed root names closed later).steps <+: (passed root names closed front).steps := by
    rcases List.mem_append.1 hmem with hbeforeMem | hmem
    · have hnot := hbefore _ hbeforeMem
      rw [hlaterTest] at hnot
      cases hnot
    · rcases List.mem_cons.1 hmem with heq | hafter
      · rw [heq]
      · exact (List.pairwise_cons.1 (List.pairwise_append.1 horder).2.1).1 _ hafter
  rw [steps_passed hroot (h.of_isPrefix hlater), steps_passed hroot (h.of_isPrefix hfront)] at hle
  exact hle.length_le

theorem find?_ancestors_eq_none_iff (hroot : IsRoot root) (h : Clean names) (closed : Bool) :
    (stepped root names closed).ancestors.find? test = none
      ↔ ¬ ∃ q, q.Encloses (stepped root names closed) ∧ holds q := by
  rw [List.find?_eq_none]
  constructor
  · rintro hnone ⟨q, hq, hqHolds⟩
    have hpassed : ∃ front, front <+: names ∧ holds (rooted root front) := by
      rcases (encloses_stepped_iff hroot h).1 hq with rfl | ⟨front, slashed, hfront, rfl⟩
      · exact ⟨[], List.nil_prefix, hqHolds⟩
      · exact ⟨front, hfront, (hholds.stepped_iff hroot (h.of_isPrefix hfront) slashed).1 hqHolds⟩
    obtain ⟨front, hfront, hfrontHolds⟩ := hpassed
    have hmem := (mem_ancestors_iff_passed hroot h closed).2 ⟨front, hfront, rfl⟩
    exact hnone _ hmem ((htest _).2 ((hholds.passed_iff hroot (h.of_isPrefix hfront)).2 hfrontHolds))
  · rintro hnone q hq hqTest
    obtain ⟨front, hfront, rfl⟩ := (mem_ancestors_iff_passed hroot h closed).1 hq
    exact hnone ⟨_, passed_encloses hroot h hfront, (htest _).1 hqTest⟩

omit htest

theorem Nearest.eq {r r' : Path} (hroot : IsRoot root) (h : Clean names)
    (hr : Nearest holds (stepped root names closed) r)
    (hr' : Nearest holds (stepped root names closed) r') : r = r' := by
  obtain ⟨front, hfront, rfl, hholdsFront, hlast⟩ := (nearest_stepped_iff hholds hroot h).1 hr
  obtain ⟨front', hfront', rfl, hholdsFront', hlast'⟩ := (nearest_stepped_iff hholds hroot h).1 hr'
  have hle := hlast' front hfront ((hholds.passed_iff hroot (h.of_isPrefix hfront)).1 hholdsFront)
  have hle' := hlast front' hfront' ((hholds.passed_iff hroot (h.of_isPrefix hfront')).1 hholdsFront')
  have heq : front = front' :=
    (List.prefix_of_prefix_length_le hfront hfront' hle).eq_of_length (by omega)
  rw [heq]

include htest

theorem find?_ancestors_eq_some_iff (hroot : IsRoot root) (h : Clean names) {r : Path} :
    (stepped root names closed).ancestors.find? test = some r
      ↔ Nearest holds (stepped root names closed) r := by
  refine ⟨nearest_of_find?_ancestors htest hholds hroot h, fun hr => ?_⟩
  cases hfound : (stepped root names closed).ancestors.find? test with
  | none =>
    have hnone := (find?_ancestors_eq_none_iff htest hholds hroot h closed).1 hfound
    exact absurd ⟨r, hr.encloses, hr.here⟩ hnone
  | some r' =>
    have hr' := nearest_of_find?_ancestors htest hholds hroot h hfound
    rw [hr'.eq hholds hroot h hr]

omit htest

omit hholds in
theorem steps_of_encloses (hroot : IsRoot root) (h : Clean names) {closed : Bool} {q : Path}
    (hq : q.Encloses (stepped root names closed)) : q.steps <+: names := by
  rcases (encloses_stepped_iff hroot h).1 hq with rfl | ⟨front, slashed, hfront, rfl⟩
  · exact List.nil_prefix
  · rwa [steps_stepped hroot (h.of_isPrefix hfront)]

/-- What is nearest from a path is nearest from all paths between the two. -/
theorem Nearest.between (hroot : IsRoot root) (h : Clean names) {r b : Path}
    (hr : Nearest holds (stepped root names closed) r) (hrb : r.Encloses b)
    (hba : b.Encloses (stepped root names closed)) :
    Nearest holds b (if b.steps = r.steps then b else r) := by
  obtain ⟨front, hfront, rfl, hhere, hlast⟩ := (nearest_stepped_iff hholds hroot h).1 hr
  have hclean := h.of_isPrefix hfront
  rw [hholds.passed_iff hroot hclean] at hhere
  rw [steps_passed hroot hclean]
  rcases (encloses_stepped_iff hroot h).1 hba with rfl | ⟨names', slashed, hnames', rfl⟩
  · -- the top is between only if it is what was found
    have hnil : front = [] := by
      have htop : (passed root names closed front).Encloses (stepped .top [] false) := hrb
      have hsteps := steps_of_encloses (.inl rfl) (List.forall_mem_nil _) htop
      rwa [steps_passed hroot hclean, List.prefix_nil] at hsteps
    subst hnil
    have hcleanNil : Clean [] := List.forall_mem_nil _
    have htop : Nearest holds (stepped .top [] false) .top :=
      (nearest_stepped_iff hholds (.inl rfl) hcleanNil).2
        ⟨[], List.prefix_rfl, rfl, hhere, fun later hlater _ => hlater.length_le⟩
    rwa [if_pos (show top.steps = [] from rfl)]
  · have hclean' := h.of_isPrefix hnames'
    have hfront' : front <+: names' := by
      have hsteps := steps_of_encloses hroot hclean' hrb
      rwa [steps_passed hroot hclean] at hsteps
    have hspelled : (if names' = front then stepped root names' slashed
        else passed root names closed front) = passed root names' slashed front := by
      by_cases heq : names' = front
      · rw [if_pos heq, passed, if_pos heq.symm]
      · have hne : front ≠ names := by
          rintro rfl
          exact heq (hnames'.eq_of_length_le hfront'.length_le)
        rw [if_neg heq, passed, passed, if_neg hne, if_neg (Ne.symm heq)]
    rw [steps_stepped hroot hclean', hspelled]
    refine (nearest_stepped_iff hholds hroot hclean').2 ⟨front, hfront', rfl, ?_, ?_⟩
    · exact (hholds.passed_iff hroot hclean).2 hhere
    · exact fun later hlater => hlast later (hlater.trans hnames')

end

end ClassAtlas.Path
