import Mathlib.Data.List.Forall2
import Mathlib.Data.List.Induction
import ClassAtlas.Proofs.NamespaceIndex.Grouping

/-! # Indices under edits

    An index is edited by inserting single entities and by building it anew
    from a list, in any order.  What it ought to hold then is a ghost of the
    edits: the list of the last building and what was inserted after it.

    One edit keeps the index and the ghost in step (`NamespaceIndex.Mirrors.edit`),
    and so does a run of edits (`NamespaceIndex.mirrors_run`).  An index is the
    grouping of its ghost and nothing else, so two indices are equal as soon as
    their ghosts agree namespace by namespace and kind by kind.
-/

namespace ClassAtlas

/-! ## The innermost namespace -/

/-- The namespace `n` is the innermost scope of its kind around the declaration;
    what no namespace encloses lies in the global one. -/
def Declaration.LiesIn (d : Declaration) (n : String) : Prop :=
  (∃ outer inner, d.scopes = outer ++ ⟨.ofNamespace, n⟩ :: inner ∧ ∀ s ∈ inner, s.kind = .ofType)
    ∨ (∀ s ∈ d.scopes, s.kind = .ofType) ∧ n = globalNamespace

theorem ScopeKind.eq_ofType_iff (k : ScopeKind) : k = .ofType ↔ ¬ (k == .ofNamespace) = true := by
  cases k <;> decide

theorem Declaration.liesIn_namespaceName (d : Declaration) : d.LiesIn d.namespaceName := by
  unfold Declaration.namespaceName
  cases hfound : d.scopes.reverse.find? (·.kind == .ofNamespace) with
  | none =>
    right
    refine ⟨fun s hs => ?_, rfl⟩
    rw [ScopeKind.eq_ofType_iff]
    exact List.find?_eq_none.1 hfound s (List.mem_reverse.2 hs)
  | some scope =>
    left
    obtain ⟨hkind, inner, outer, hsplit, hinner⟩ := List.find?_eq_some_iff_append.1 hfound
    refine ⟨outer.reverse, inner.reverse, ?_, fun s hs => ?_⟩
    · have hscope : scope = ⟨.ofNamespace, scope.name⟩ := by
        rw [← eq_of_beq hkind]
      rw [← hscope, ← List.reverse_reverse d.scopes, hsplit]
      simp
    · rw [ScopeKind.eq_ofType_iff]
      have hnot := hinner s (List.mem_reverse.1 hs)
      simpa using hnot

/-- A declaration lies in one namespace only. -/
theorem Declaration.LiesIn.namespaceName_eq {d : Declaration} {n : String} (h : d.LiesIn n) :
    d.namespaceName = n := by
  unfold Declaration.namespaceName
  rcases h with ⟨outer, inner, hsplit, hinner⟩ | ⟨hnone, rfl⟩
  · -- going outwards, the types inside are passed over
    have hskip : inner.reverse.find? (·.kind == .ofNamespace) = none := by
      refine List.find?_eq_none.2 fun s hs => ?_
      exact (ScopeKind.eq_ofType_iff _).1 (hinner s (List.mem_reverse.1 hs))
    rw [hsplit, List.reverse_append, List.reverse_cons, List.append_assoc, List.find?_append, hskip]
    rfl
  · have hskip : d.scopes.reverse.find? (·.kind == .ofNamespace) = none := by
      refine List.find?_eq_none.2 fun s hs => ?_
      exact (ScopeKind.eq_ofType_iff _).1 (hnone s (List.mem_reverse.1 hs))
    rw [hskip]

theorem Declaration.namespaceName_eq_iff {d : Declaration} {n : String} :
    d.namespaceName = n ↔ d.LiesIn n := by
  constructor
  · intro h
    rw [← h]
    exact d.liesIn_namespaceName
  · exact Declaration.LiesIn.namespaceName_eq

theorem mem_map_namespaceName_iff {es : List Entity} {n : String} :
    n ∈ es.map (·.namespaceName) ↔ ∃ e ∈ es, e.LiesIn n := by
  simp only [List.mem_map, Declaration.namespaceName_eq_iff]

/-- A namespace without entities has neither interfaces nor classes, and only such a one. -/
theorem mem_map_namespaceName_iff_ne_nil {es : List Entity} {n : String} :
    n ∈ es.map (·.namespaceName) ↔ interfacesOf es n ≠ [] ∨ classesOf es n ≠ [] := by
  constructor
  · intro h
    obtain ⟨e, he, rfl⟩ := List.mem_map.1 h
    cases hk : e.kind with
    | interfaceType =>
      left
      have hmem : e ∈ interfacesOf es e.namespaceName := by
        simp [interfacesOf, he, Declaration.isInterface, hk]
      exact List.ne_nil_of_mem hmem
    | classType =>
      right
      have hmem : e ∈ classesOf es e.namespaceName := by
        simp [classesOf, he, Declaration.isClass, hk]
      exact List.ne_nil_of_mem hmem
  · rintro (h | h)
    all_goals
      obtain ⟨e, he⟩ := List.exists_mem_of_ne_nil _ h
      obtain ⟨hmem, hkept⟩ := List.mem_filter.1 he
      rw [← eq_of_beq (Bool.and_eq_true_iff.1 hkept).2]
      exact List.mem_map_of_mem hmem

/-! ## Comparing -/

/-- Two lists of entities, the same one by one, however the paths of their files
    are spelled. -/
abbrev SameEntities (es ds : List Entity) : Prop := List.Forall₂ (Entity.sameAs · ·) es ds

theorem isEqv_iff_forall₂ {α : Type} (same : α → α → Bool) (xs ys : List α) :
    xs.isEqv ys same ↔ List.Forall₂ (same · ·) xs ys := by
  induction xs generalizing ys with
  | nil => cases ys <;> simp [List.isEqv]
  | cons x xs ih => cases ys <;> simp [List.isEqv, ih]

theorem forall₂_eq_nil_iff {α : Type} {r : α → α → Prop} {xs ys : List α}
    (h : List.Forall₂ r xs ys) : xs = [] ↔ ys = [] := by
  cases h <;> simp

/-- Two packages of the same namespace, with entities that match one by one. -/
structure Package.Matches (r : Entity → Entity → Prop) (p q : Package) : Prop where
  name : p.name = q.name
  interfaces : List.Forall₂ r p.interfaces q.interfaces
  classes : List.Forall₂ r p.classes q.classes

theorem Package.sameAs_iff (p q : Package) : p.sameAs q ↔ p.Matches (Entity.sameAs · ·) q := by
  constructor
  · intro h
    simp only [Package.sameAs, Bool.and_eq_true, isEqv_iff_forall₂] at h
    exact ⟨eq_of_beq h.1.1, h.1.2, h.2⟩
  · intro h
    simp only [Package.sameAs, Bool.and_eq_true, isEqv_iff_forall₂]
    exact ⟨⟨beq_iff_eq.2 h.name, h.interfaces⟩, h.classes⟩

theorem Package.eq_iff_matches (p q : Package) : p = q ↔ p.Matches (· = ·) q := by
  constructor
  · rintro rfl
    exact ⟨rfl, List.forall₂_refl _, List.forall₂_refl _⟩
  · rintro ⟨hname, hinterfaces, hclasses⟩
    rw [List.forall₂_eq_eq_eq] at hinterfaces hclasses
    cases p
    cases q
    simp_all

namespace NamespaceIndex

/-- Indices of two lists have matching packages just if the lists match, namespace
    by namespace and kind by kind. -/
theorem Groups.forall₂_packages_iff {r : Entity → Entity → Prop} {index other : NamespaceIndex}
    {es ds : List Entity} (h : index.Groups es) (h' : other.Groups ds) :
    List.Forall₂ (Package.Matches r) index.packages other.packages
      ↔ ∀ n, List.Forall₂ r (interfacesOf es n) (interfacesOf ds n)
          ∧ List.Forall₂ r (classesOf es n) (classesOf ds n) := by
  constructor
  · intro hpackages n
    -- the packages stand in pairs, so the names are the same on both sides
    have hnames : index.namespaces = other.namespaces := by
      rw [← List.forall₂_eq_eq_eq, namespaces, namespaces, List.forall₂_map_left_iff,
        List.forall₂_map_right_iff]
      exact hpackages.imp fun _ _ hpq => hpq.name
    by_cases hn : n ∈ index.namespaces
    · rw [h.packages_eq, h'.packages_eq, ← hnames, List.forall₂_map_left_iff,
        List.forall₂_map_right_iff, List.forall₂_same] at hpackages
      have hmatch := hpackages n hn
      exact ⟨hmatch.interfaces, hmatch.classes⟩
    · -- a namespace of neither index has no entity in either list
      have hes : ¬ (interfacesOf es n ≠ [] ∨ classesOf es n ≠ []) := by
        rwa [← mem_map_namespaceName_iff_ne_nil, ← h.mem_namespaces]
      have hds : ¬ (interfacesOf ds n ≠ [] ∨ classesOf ds n ≠ []) := by
        rwa [← mem_map_namespaceName_iff_ne_nil, ← h'.mem_namespaces, ← hnames]
      simp only [not_or, not_not] at hes hds
      rw [hes.1, hes.2, hds.1, hds.2]
      exact ⟨.nil, .nil⟩
  · intro hlists
    have hnames : index.namespaces = other.namespaces := by
      refine h.ascending.eq_of_mem_iff h'.ascending fun n => ?_
      rw [h.mem_namespaces, h'.mem_namespaces, mem_map_namespaceName_iff_ne_nil,
        mem_map_namespaceName_iff_ne_nil, ne_eq, ne_eq, forall₂_eq_nil_iff (hlists n).1,
        forall₂_eq_nil_iff (hlists n).2]
    rw [h.packages_eq, h'.packages_eq, ← hnames, List.forall₂_map_left_iff,
      List.forall₂_map_right_iff, List.forall₂_same]
    intro n _
    exact ⟨rfl, (hlists n).1, (hlists n).2⟩

theorem Groups.sameAs_iff {index other : NamespaceIndex} {es ds : List Entity}
    (h : index.Groups es) (h' : other.Groups ds) :
    index.sameAs other ↔ ∀ n, SameEntities (interfacesOf es n) (interfacesOf ds n)
      ∧ SameEntities (classesOf es n) (classesOf ds n) := by
  simp only [sameAs, isEqv_iff_forall₂, Package.sameAs_iff]
  exact h.forall₂_packages_iff h'

theorem Groups.eq_iff {index other : NamespaceIndex} {es ds : List Entity}
    (h : index.Groups es) (h' : other.Groups ds) :
    index = other ↔ ∀ n, interfacesOf es n = interfacesOf ds n ∧ classesOf es n = classesOf ds n := by
  have hpackages : index = other ↔ index.packages = other.packages := by
    cases index
    cases other
    simp
  have hmatch := h.forall₂_packages_iff (r := (· = ·)) h'
  rw [List.forall₂_eq_eq_eq] at hmatch
  rw [hpackages, ← hmatch, ← List.forall₂_eq_eq_eq]
  simp only [Package.eq_iff_matches]

/-! ## Counting -/

/-- An insertion adds to a total what it adds to one package. -/
theorem total_insertInto {size : Package → Nat} {e : Entity} {k : Nat}
    (hinsert : ∀ p, (size (Package.insert p e)) = size p + k)
    (hblank : ∀ n, size { name := n } = 0) (ps : List Package) :
    (insertInto e ps).foldr (size · + ·) 0 = ps.foldr (size · + ·) 0 + k := by
  induction ps with
  | nil => simp [insertInto, hinsert, hblank]
  | cons p ps ih =>
    simp only [insertInto]
    split
    · simp only [List.foldr_cons, hinsert]
      omega
    · split
      · simp only [List.foldr_cons, hinsert, hblank]
        omega
      · simp only [List.foldr_cons, ih]
        omega

theorem interfaceCount_insert (index : NamespaceIndex) (e : Entity) :
    (index.insert e).interfaceCount = index.interfaceCount + if e.isInterface then 1 else 0 := by
  refine total_insertInto (fun p => ?_) (fun _ => rfl) index.packages
  cases hk : e.kind <;> simp [Package.insert, Declaration.isInterface, hk]

theorem classCount_insert (index : NamespaceIndex) (e : Entity) :
    (index.insert e).classCount = index.classCount + if e.isClass then 1 else 0 := by
  refine total_insertInto (fun p => ?_) (fun _ => rfl) index.packages
  cases hk : e.kind <;> simp [Package.insert, Declaration.isClass, hk]

/-! ## The invariant -/

/-- The index groups the entities of a list and counts each of them. -/
structure Mirrors (index : NamespaceIndex) (es : List Entity) : Prop where
  groups : index.Groups es
  interfaceCount : index.interfaceCount = es.countP (·.isInterface)
  classCount : index.classCount = es.countP (·.isClass)

theorem mirrors_empty : Mirrors empty [] where
  groups := groups_empty
  interfaceCount := rfl
  classCount := rfl

theorem Mirrors.insert {index : NamespaceIndex} {es : List Entity} (h : index.Mirrors es)
    (e : Entity) : (index.insert e).Mirrors (es ++ [e]) where
  groups := h.groups.insert e
  interfaceCount := by
    rw [interfaceCount_insert, h.interfaceCount, List.countP_append, List.countP_singleton]
  classCount := by
    rw [classCount_insert, h.classCount, List.countP_append, List.countP_singleton]

theorem mirrors_ofList (es : List Entity) : (ofList es).Mirrors es := by
  induction es using List.reverseRecOn with
  | nil => exact mirrors_empty
  | append_singleton es e ih =>
    have hsnoc : ofList (es ++ [e]) = (ofList es).insert e := by
      rw [ofList, List.foldl_append]
      rfl
    rw [hsnoc]
    exact ih.insert e

/-- Every entity is an interface or a class. -/
theorem countP_isInterface_add_countP_isClass (es : List Entity) :
    es.countP (·.isInterface) + es.countP (·.isClass) = es.length := by
  induction es with
  | nil => rfl
  | cons e es ih =>
    have hkind : (if e.isInterface then 1 else 0) + (if e.isClass then 1 else 0) = 1 := by
      unfold Declaration.isInterface Declaration.isClass
      cases e.kind <;> rfl
    simp only [List.countP_cons, List.length_cons]
    omega

theorem Mirrors.count {index : NamespaceIndex} {es : List Entity} (h : index.Mirrors es) :
    index.interfaceCount + index.classCount = es.length := by
  rw [h.interfaceCount, h.classCount, countP_isInterface_add_countP_isClass]

/-! ## Edits -/

/-- One change of an index. -/
inductive Edit where
  /-- One more entity goes in. -/
  | insert (e : Entity)
  /-- The index is thrown away and made from a list. -/
  | build (es : List Entity)
  deriving DecidableEq, Repr

/-- The index after an edit. -/
def Edit.apply (index : NamespaceIndex) : Edit → NamespaceIndex
  | .insert e => index.insert e
  | .build es => ofList es

/-- What ought to be held after an edit, if `es` was held before. -/
def Edit.extend (es : List Entity) : Edit → List Entity
  | .insert e => es ++ [e]
  | .build ds => ds

/-- The index after a run of edits, from the empty one. -/
def run (edits : List Edit) : NamespaceIndex := edits.foldl Edit.apply empty

/-- The list of the last building and what was inserted after it. -/
def history (edits : List Edit) : List Entity := edits.foldl Edit.extend []

theorem Mirrors.edit {index : NamespaceIndex} {es : List Entity} (h : index.Mirrors es)
    (edit : Edit) : (edit.apply index).Mirrors (edit.extend es) := by
  cases edit with
  | insert e => exact h.insert e
  | build ds => exact mirrors_ofList ds

theorem mirrors_run (edits : List Edit) : (run edits).Mirrors (history edits) := by
  induction edits using List.reverseRecOn with
  | nil => exact mirrors_empty
  | append_singleton edits edit ih =>
    rw [run, history, List.foldl_append, List.foldl_append]
    exact ih.edit edit

/-- After any run of edits the index holds its history and nothing else: its
    namespaces ascend and are those of the history, the package of each holds
    the entities of the history in it, kind by kind and in order, and the counts
    add up.  Two such indices compare equal just if their histories agree on
    every namespace and kind. -/
theorem run_mirrors_history (edits : List Edit) :
    let index := run edits
    let es := history edits
    Ascending index.namespaces
      ∧ (∀ n, n ∈ index.namespaces ↔ ∃ e ∈ es, e.LiesIn n)
      ∧ (∀ n, (index.get? n).isSome ↔ ∃ e ∈ es, e.LiesIn n)
      ∧ (∀ n p, index.get? n = some p →
          p.name = n ∧ p.interfaces = interfacesOf es n ∧ p.classes = classesOf es n)
      ∧ index.interfaceCount + index.classCount = es.length
      ∧ ∀ others,
          (index.sameAs (run others) ↔
            ∀ n, SameEntities (interfacesOf es n) (interfacesOf (history others) n)
              ∧ SameEntities (classesOf es n) (classesOf (history others) n))
          ∧ (index = run others ↔
            ∀ n, interfacesOf es n = interfacesOf (history others) n
              ∧ classesOf es n = classesOf (history others) n) := by
  intro index es
  have hmirrors : index.Mirrors es := mirrors_run edits
  have hgroups := hmirrors.groups
  have hmem : ∀ n, n ∈ index.namespaces ↔ ∃ e ∈ es, e.LiesIn n := by
    intro n
    rw [hgroups.mem_namespaces, mem_map_namespaceName_iff]
  refine ⟨hgroups.ascending, hmem, fun n => ?_, fun n p hp => ?_, hmirrors.count, fun others => ?_⟩
  · rw [hgroups.get?_eq, ← hmem]
    by_cases hn : n ∈ index.namespaces <;> simp [hn]
  · rw [hgroups.get?_eq] at hp
    split at hp
    · cases hp
      exact ⟨rfl, rfl, rfl⟩
    · cases hp
  · have hothers := (mirrors_run others).groups
    exact ⟨hgroups.sameAs_iff hothers, hgroups.eq_iff hothers⟩

end NamespaceIndex

end ClassAtlas
