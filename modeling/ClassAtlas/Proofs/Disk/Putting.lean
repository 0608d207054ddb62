import ClassAtlas.Proofs.Disk.Tree

/-! # Putting an entry at a place

    A tree that an entry is put into stays a tree.  It has the entry at that
    place and, everywhere but there and below, what it had before, up to what
    is in directories (`Directory.SameApart`).
-/

namespace ClassAtlas

namespace Directory

/-! ## One directory -/

@[simp] theorem ofEntries_entries (d : Directory) : ofEntries d.entries = d := by
  induction d using recCons with
  | empty => rfl
  | cons name e rest _ ih => rw [entries_cons, ofEntries, ih]

theorem put_empty (name : Name) (e : Entry) : empty.put name e = cons name e .empty := rfl

theorem put_cons (name other : Name) (e f : Entry) (rest : Directory) :
    (cons other f rest).put name e
      = if other = name then cons name e rest else cons other f (rest.put name e) := by
  rw [put, entries_cons, putEntry]
  split
  · rw [ofEntries, ofEntries_entries]
  · rw [ofEntries, put]

theorem find?_put (d : Directory) (name other : Name) (e : Entry) :
    (d.put name e).find? other = if other = name then some e else d.find? other := by
  induction d using recCons with
  | empty => rw [put_empty, find?_cons]
  | cons first f rest _ ih =>
    rw [put_cons]
    by_cases hfirst : first = name
    · subst hfirst
      rw [if_pos rfl, find?_cons, find?_cons]
      by_cases h : other = first
      · rw [if_pos h, if_pos h]
      · rw [if_neg h, if_neg h, if_neg h]
    · rw [if_neg hfirst, find?_cons, find?_cons, ih]
      by_cases h : other = first
      · have hne : other ≠ name := fun heq => hfirst (h.symm.trans heq)
        rw [if_pos h, if_neg hne, if_pos h]
      · rw [if_neg h, if_neg h]

/-- Nothing changes when an entry is put where it stands. -/
theorem put_eq_self {d : Directory} {name : Name} {e : Entry} (h : d.find? name = some e) :
    d.put name e = d := by
  induction d using recCons with
  | empty => cases h
  | cons other f rest _ ih =>
    rw [find?_cons] at h
    rw [put_cons]
    by_cases heq : name = other
    · rw [if_pos heq] at h
      cases h
      rw [if_pos heq.symm, heq]
    · rw [if_neg heq] at h
      rw [if_neg (Ne.symm heq), ih h]

theorem mem_names_put {d : Directory} {name other : Name} {e : Entry} :
    other ∈ (d.put name e).names ↔ other = name ∨ other ∈ d.names := by
  induction d using recCons with
  | empty => simp [put_empty, names, entries]
  | cons first f rest _ ih =>
    rw [put_cons]
    by_cases hfirst : first = name
    · rw [if_pos hfirst, names_cons, names_cons, hfirst]
      simp
    · rw [if_neg hfirst, names_cons, names_cons, List.mem_cons, ih, List.mem_cons]
      exact or_left_comm

theorem mem_names_iff_exists_find? {d : Directory} {name : Name} :
    name ∈ d.names ↔ ∃ e, d.find? name = some e := by
  constructor
  · intro h
    induction d using recCons with
    | empty => cases h
    | cons other e rest _ ih =>
      rw [find?_cons]
      by_cases heq : name = other
      · exact ⟨e, if_pos heq⟩
      · rw [names_cons] at h
        rw [if_neg heq]
        exact ih ((List.mem_cons.1 h).resolve_left heq)
  · rintro ⟨e, he⟩
    exact mem_names_of_find? he

theorem IsTree.put {d : Directory} (h : d.IsTree) {name : Name} (hname : name.IsProper)
    {e : Entry} (he : e.IsTree) : (d.put name e).IsTree := by
  induction d using recCons with
  | empty =>
    rw [put_empty]
    exact isTree_cons_iff.2 ⟨hname, List.not_mem_nil, he, trivial⟩
  | cons other f rest _ ih =>
    obtain ⟨hother, hnew, hf, hrest⟩ := isTree_cons_iff.1 h
    rw [put_cons]
    split
    · next heq => exact isTree_cons_iff.2 ⟨hname, heq ▸ hnew, he, hrest⟩
    · next hne =>
      refine isTree_cons_iff.2 ⟨hother, ?_, hf, ih hrest⟩
      rw [mem_names_put, not_or]
      exact ⟨hne, hnew⟩

theorem LinkFree.put {d : Directory} (h : d.LinkFree) (name : Name) {e : Entry}
    (he : e.LinkFree) : (d.put name e).LinkFree := by
  induction d using recCons with
  | empty =>
    rw [put_empty]
    exact linkFree_cons_iff.2 ⟨he, trivial⟩
  | cons other f rest _ ih =>
    obtain ⟨hf, hrest⟩ := linkFree_cons_iff.1 h
    rw [put_cons]
    split
    · exact linkFree_cons_iff.2 ⟨he, hrest⟩
    · exact linkFree_cons_iff.2 ⟨hf, ih hrest⟩

/-! ## At a place -/

theorem putAt_singleton (d : Directory) (name : Name) (e : Entry) :
    d.putAt [name] e = d.put name e := by
  rw [putAt, alterAt]

/-- Below the top, an entry is put into the first directory of the way. -/
theorem putAt_cons (d : Directory) (name : Name) {names : Place} (h : names ≠ []) (e : Entry) :
    d.putAt (name :: names) e
      = match d.find? name with
        | some (.directory inside) => d.put name (.directory (inside.putAt names e))
        | _ => d := by
  rw [putAt, alterAt]
  · rfl
  · rintro rfl
    exact h rfl

/-- Along the place of the entry: it is put into the directory that is there, or
    the way ends before. -/
theorem putAt_induction {motive : Directory → Place → Directory → Prop} {e : Entry}
    (nil : ∀ d, motive d [] d) (last : ∀ d name, motive d [name] (d.put name e))
    (below : ∀ d name names inside, names ≠ [] → d.find? name = some (.directory inside) →
      motive inside names (inside.putAt names e) →
      motive d (name :: names) (d.put name (.directory (inside.putAt names e))))
    (nowhere : ∀ d name names, names ≠ [] →
      (∀ inside, d.find? name ≠ some (.directory inside)) → motive d (name :: names) d)
    (d : Directory) (place : Place) : motive d place (d.putAt place e) := by
  induction place generalizing d with
  | nil =>
    rw [putAt, alterAt]
    exact nil d
  | cons name names ih =>
    by_cases hnames : names = []
    · subst hnames
      rw [putAt_singleton]
      exact last d name
    · rw [putAt_cons d name hnames]
      split
      · next inside hfind => exact below d name names inside hnames hfind (ih inside)
      · next hfind => exact nowhere d name names hnames hfind

theorem IsTree.putAt {d : Directory} (h : d.IsTree) {place : Place}
    (hplace : ∀ n ∈ place, n.IsProper) {e : Entry} (he : e.IsTree) : (d.putAt place e).IsTree := by
  revert h hplace
  refine putAt_induction
    (motive := fun d place d' => d.IsTree → (∀ n ∈ place, n.IsProper) → d'.IsTree)
    ?_ ?_ ?_ ?_ d place
  · exact fun d h _ => h
  · intro d name h hplace
    exact h.put (hplace name List.mem_cons_self) he
  · intro d name names inside _ hfind ih h hplace
    obtain ⟨hname, hnames⟩ := List.forall_mem_cons.1 hplace
    have hinside : inside.IsTree := (h.find? hfind).2
    exact h.put hname (ih hinside hnames)
  · exact fun d _ _ _ _ h _ => h

theorem LinkFree.putAt {d : Directory} (h : d.LinkFree) (place : Place) {e : Entry}
    (he : e.LinkFree) : (d.putAt place e).LinkFree := by
  revert h
  refine putAt_induction (motive := fun d _ d' => d.LinkFree → d'.LinkFree) ?_ ?_ ?_ ?_ d place
  · exact fun d h => h
  · exact fun d name h => h.put name he
  · intro d name names inside _ hfind ih h
    have hinside : inside.LinkFree := LinkFree.find? h hfind
    exact h.put name (ih hinside)
  · exact fun d _ _ _ _ h => h

theorem putAt_eq_self {d : Directory} {place : Place} {e : Entry} (h : d.at? place = some e) :
    d.putAt place e = d := by
  revert h
  refine putAt_induction (motive := fun d place d' => d.at? place = some e → d' = d) ?_ ?_ ?_ ?_
    d place
  · exact fun d _ => rfl
  · intro d name h
    rw [at?_name_cons] at h
    obtain ⟨f, hf, heq⟩ := Option.bind_eq_some_iff.1 h
    rw [Entry.at?_nil] at heq
    cases heq
    exact put_eq_self hf
  · intro d name names inside _ hfind ih h
    rw [at?_name_cons, hfind] at h
    rw [ih h]
    exact put_eq_self hfind
  · exact fun d _ _ _ _ _ => rfl

/-- The entry is there, with all that is below it. -/
theorem at?_putAt {d inside : Directory} {parent : Place}
    (h : d.at? parent = some (.directory inside)) (name : Name) (e : Entry) (below : Place) :
    (d.putAt (parent ++ [name]) e).at? (parent ++ name :: below) = e.at? below := by
  induction parent generalizing d with
  | nil =>
    rw [List.nil_append, List.nil_append, putAt_singleton, at?_name_cons, find?_put, if_pos rfl]
    rfl
  | cons first parent ih =>
    rw [at?_name_cons] at h
    obtain ⟨f, hf, hbelow⟩ := Option.bind_eq_some_iff.1 h
    cases f with
    | file contents => cases parent <;> cases hbelow
    | link target => cases parent <;> cases hbelow
    | directory d' =>
      have hne : parent ++ [name] ≠ [] := List.append_ne_nil_of_right_ne_nil _ (List.cons_ne_nil _ _)
      rw [List.cons_append, List.cons_append, putAt_cons d first hne, hf]
      show (d.put first (.directory (d'.putAt (parent ++ [name]) e))).at? _ = _
      rw [at?_name_cons, find?_put, if_pos rfl]
      exact ih hbelow

end Directory

/-! ## Everywhere else -/

/-- An entry without what is in it, if it is a directory. -/
def Entry.shallow : Entry → Entry
  | .directory _ => .directory .empty
  | e => e

namespace Directory

/-- But for the place and what is below it, the two trees have the same entries,
    up to what is in directories. -/
def SameApart (apart : Place) (d d' : Directory) : Prop :=
  ∀ place, ¬ apart <+: place → (d'.at? place).map Entry.shallow = (d.at? place).map Entry.shallow

theorem SameApart.refl (apart : Place) (d : Directory) : SameApart apart d d := fun _ _ => rfl

theorem SameApart.trans {apart : Place} {d₁ d₂ d₃ : Directory} (h₁ : SameApart apart d₁ d₂)
    (h₂ : SameApart apart d₂ d₃) : SameApart apart d₁ d₃ :=
  fun place hplace => (h₂ place hplace).trans (h₁ place hplace)

/-- What is changed apart from a place is changed apart from those above it. -/
theorem SameApart.above {apart above : Place} {d d' : Directory} (h : SameApart apart d d')
    (habove : above <+: apart) : SameApart above d d' :=
  fun place hplace => h place fun hprefix => hplace (habove.trans hprefix)

theorem sameApart_putAt (d : Directory) (place : Place) (e : Entry) :
    SameApart place d (d.putAt place e) := by
  refine putAt_induction (motive := fun d place d' => SameApart place d d') ?_ ?_ ?_ ?_ d place
  · exact fun d => .refl [] d
  · intro d name other hother
    cases other with
    | nil => rfl
    | cons first more =>
      have hne : first ≠ name := by
        rintro rfl
        exact hother (List.prefix_append [first] more)
      rw [at?_name_cons, at?_name_cons, find?_put, if_neg hne]
  · intro d name names inside _ hfind ih other hother
    cases other with
    | nil => rfl
    | cons first more =>
      rw [at?_name_cons, at?_name_cons, find?_put]
      by_cases heq : first = name
      · subst heq
        rw [if_pos rfl, hfind]
        -- the same entry on the way, so the rest of the place is below it
        apply ih more
        intro hprefix
        exact hother (List.cons_prefix_cons.2 ⟨rfl, hprefix⟩)
      · rw [if_neg heq]
  · exact fun d name names _ _ => .refl _ d

end Directory

end ClassAtlas
