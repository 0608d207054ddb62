import Mathlib.Data.List.Dedup
import ClassAtlas.NamespaceIndex
import ClassAtlas.Proofs.Text.Utf8

/-! # What an index holds

    An index is a function of the entities that went into it: its packages
    stand in strictly ascending byte order, there is one for every namespace
    of an entity and no other, and each holds the entities of its namespace,
    interfaces and classes apart, in the order in which they came.

    One insertion keeps this (`NamespaceIndex.Groups.insert`); the index of a
    list is made by insertions only (`NamespaceIndex.groups_ofList`).
-/

namespace ClassAtlas

/-! ## Byte order -/

theorem byteLt_irrefl (s : String) : ¬ byteLt s s := by
  simp only [byteLt, decide_eq_true_eq]
  exact List.lt_irrefl _

theorem byteLt_trans {s t u : String} (hst : byteLt s t) (htu : byteLt t u) : byteLt s u := by
  simp only [byteLt, decide_eq_true_eq] at *
  exact List.lt_trans hst htu

theorem byteLt_asymm {s t : String} (h : byteLt s t) : ¬ byteLt t s :=
  fun h' => byteLt_irrefl s (byteLt_trans h h')

/-- The order of `byteLt` with equal texts. -/
def byteLe (s t : String) : Bool := decide (Utf8.encode s ≤ Utf8.encode t)

theorem byteLe_of_not_byteLt {s t : String} (h : ¬ byteLt s t) : byteLe t s := by
  simp only [byteLt, byteLe, decide_eq_true_eq] at *
  exact List.not_lt.1 h

theorem byteLe_antisymm {s t : String} (hst : byteLe s t) (hts : byteLe t s) : s = t := by
  simp only [byteLe, decide_eq_true_eq] at *
  exact Utf8.encode_injective (List.le_antisymm hst hts)

theorem byteLe_trans {s t u : String} (hst : byteLe s t) (htu : byteLe t u) : byteLe s u := by
  simp only [byteLe, decide_eq_true_eq] at *
  exact List.le_trans hst htu

theorem byteLe_total (s t : String) : byteLe s t || byteLe t s := by
  simp only [byteLe, Bool.or_eq_true, decide_eq_true_eq]
  exact List.le_total _ _

/-- Of two different texts one comes first. -/
theorem byteLt_of_not {s t : String} (hne : s ≠ t) (h : ¬ byteLt s t) : byteLt t s := by
  by_contra h'
  exact hne (byteLe_antisymm (byteLe_of_not_byteLt h') (byteLe_of_not_byteLt h))

/-- Strictly ascending in byte order. -/
def Ascending (names : List String) : Prop := names.Pairwise (byteLt · ·)

theorem Ascending.nodup {names : List String} (h : Ascending names) : names.Nodup := by
  refine List.Pairwise.imp ?_ h
  intro a b hab heq
  rw [heq] at hab
  exact byteLt_irrefl b hab

/-- An ascending list is determined by its members. -/
theorem Ascending.eq_of_mem_iff {xs ys : List String} (hx : Ascending xs) (hy : Ascending ys)
    (h : ∀ n, n ∈ xs ↔ n ∈ ys) : xs = ys := by
  have hperm : xs.Perm ys := (List.perm_ext_iff_of_nodup hx.nodup hy.nodup).2 h
  exact hperm.eq_of_pairwise (fun _ _ _ _ hab hba => absurd hba (byteLt_asymm hab)) hx hy

/-! ## Packages of a list -/

/-- The interfaces of a namespace, in order. -/
def interfacesOf (es : List Entity) (n : String) : List Entity :=
  es.filter fun e => e.isInterface && e.namespaceName == n

/-- The classes of a namespace, in order. -/
def classesOf (es : List Entity) (n : String) : List Entity :=
  es.filter fun e => e.isClass && e.namespaceName == n

/-- The namespaces of a list of entities, each once, in byte order. -/
def namespacesOf (es : List Entity) : List String :=
  (es.map (·.namespaceName)).dedup.mergeSort byteLe

theorem mem_namespacesOf {es : List Entity} {n : String} :
    n ∈ namespacesOf es ↔ n ∈ es.map (·.namespaceName) := by
  rw [namespacesOf, List.mem_mergeSort, List.mem_dedup]

theorem ascending_namespacesOf (es : List Entity) : Ascending (namespacesOf es) := by
  have htrans : ∀ a b c : String, byteLe a b → byteLe b c → byteLe a c :=
    fun _ _ _ hab hbc => byteLe_trans hab hbc
  have hsorted : (namespacesOf es).Pairwise (byteLe · ·) := by
    rw [namespacesOf]
    exact List.pairwise_mergeSort htrans byteLe_total _
  have hnodup : (namespacesOf es).Nodup :=
    (List.mergeSort_perm _ _).nodup_iff.2 (List.nodup_dedup _)
  refine (hsorted.and hnodup).imp fun {m n} hmn => ?_
  by_contra hlt
  exact hmn.2 (byteLe_antisymm hmn.1 (byteLe_of_not_byteLt hlt))

/-- The package that a list of entities makes for a namespace. -/
def Package.ofNamespace (es : List Entity) (n : String) : Package where
  name := n
  interfaces := interfacesOf es n
  classes := classesOf es n

@[simp] theorem Package.name_ofNamespace (es : List Entity) (n : String) :
    (Package.ofNamespace es n).name = n := rfl

/-- The interfaces and the classes of a package are what they are called. -/
structure Package.WellKinded (p : Package) : Prop where
  interfaces : ∀ e ∈ p.interfaces, e.kind = .interfaceType
  classes : ∀ e ∈ p.classes, e.kind = .classType

theorem Package.wellKinded_ofNamespace (es : List Entity) (n : String) :
    (Package.ofNamespace es n).WellKinded where
  interfaces e he := by
    have hkept := (List.mem_filter.1 he).2
    exact eq_of_beq (Bool.and_eq_true_iff.1 hkept).1
  classes e he := by
    have hkept := (List.mem_filter.1 he).2
    exact eq_of_beq (Bool.and_eq_true_iff.1 hkept).1

@[simp] theorem Package.name_insert (p : Package) (e : Entity) : (p.insert e).name = p.name := by
  unfold Package.insert
  split <;> rfl

/-- An entity of the namespace joins the package. -/
theorem Package.ofNamespace_concat_self (es : List Entity) (e : Entity) :
    Package.ofNamespace (es ++ [e]) e.namespaceName
      = (Package.ofNamespace es e.namespaceName).insert e := by
  cases hk : e.kind <;>
    simp [Package.ofNamespace, Package.insert, interfacesOf, classesOf, Declaration.isInterface,
      Declaration.isClass, hk]

/-- An entity of another namespace leaves it as it is. -/
theorem Package.ofNamespace_concat_ne (es : List Entity) {e : Entity} {n : String}
    (h : e.namespaceName ≠ n) :
    Package.ofNamespace (es ++ [e]) n = Package.ofNamespace es n := by
  simp [Package.ofNamespace, interfacesOf, classesOf, h]

theorem Package.ofNamespace_of_forall_ne {es : List Entity} {n : String}
    (h : ∀ e ∈ es, e.namespaceName ≠ n) : Package.ofNamespace es n = { name := n } := by
  have hi : interfacesOf es n = [] := by
    refine List.filter_eq_nil_iff.2 fun e he => ?_
    simp [h e he]
  have hc : classesOf es n = [] := by
    refine List.filter_eq_nil_iff.2 fun e he => ?_
    simp [h e he]
  rw [Package.ofNamespace, hi, hc]

namespace NamespaceIndex

/-! ## One insertion -/

theorem mem_names_insertInto {e : Entity} {ps : List Package} {n : String} :
    n ∈ (insertInto e ps).map (·.name) ↔ n = e.namespaceName ∨ n ∈ ps.map (·.name) := by
  induction ps with
  | nil => simp [insertInto]
  | cons p ps ih =>
    simp only [insertInto]
    split
    · next heq => simp [heq]
    · split
      · simp
      · simp only [List.map_cons, List.mem_cons, ih]
        exact or_left_comm

theorem ascending_insertInto {e : Entity} {ps : List Package}
    (h : Ascending (ps.map (·.name))) : Ascending ((insertInto e ps).map (·.name)) := by
  induction ps with
  | nil => exact List.pairwise_singleton _ _
  | cons p ps ih =>
    obtain ⟨hp, hps⟩ := List.pairwise_cons.1 h
    simp only [insertInto]
    split
    · next heq =>
      rw [List.map_cons, Package.name_insert]
      exact h
    · next hne =>
      split
      · next hlt =>
        rw [List.map_cons, Package.name_insert]
        refine List.pairwise_cons.2 ⟨fun n hn => ?_, h⟩
        rcases List.mem_cons.1 hn with rfl | hn
        · exact hlt
        · exact byteLt_trans hlt (hp n hn)
      · next hnlt =>
        -- neither equal nor below: the entity's name lies above the head's
        rw [List.map_cons]
        refine List.pairwise_cons.2 ⟨fun n hn => ?_, ih hps⟩
        rcases mem_names_insertInto.1 hn with rfl | hn
        · exact byteLt_of_not (Ne.symm hne) hnlt
        · exact hp n hn

/-- The packages after an insertion: the one of the entity, new or extended,
    and those of other namespaces. -/
theorem mem_insertInto {e : Entity} {ps : List Package} (h : Ascending (ps.map (·.name)))
    {p : Package} (hp : p ∈ insertInto e ps) :
    (p ∈ ps ∧ p.name ≠ e.namespaceName)
      ∨ (∃ q ∈ ps, q.name = e.namespaceName ∧ p = q.insert e)
      ∨ (e.namespaceName ∉ ps.map (·.name)
          ∧ p = Package.insert { name := e.namespaceName } e) := by
  induction ps with
  | nil =>
    right; right
    exact ⟨List.not_mem_nil, List.mem_singleton.1 hp⟩
  | cons q ps ih =>
    obtain ⟨hq, hps⟩ := List.pairwise_cons.1 h
    simp only [insertInto] at hp
    split at hp
    · next heq =>
      rcases List.mem_cons.1 hp with rfl | hp
      · right; left
        exact ⟨q, List.mem_cons_self, heq, rfl⟩
      · left
        refine ⟨List.mem_cons_of_mem _ hp, fun hname => ?_⟩
        have hlt : byteLt q.name p.name := hq _ (List.mem_map_of_mem hp)
        rw [heq, hname] at hlt
        exact byteLt_irrefl _ hlt
    · next hne =>
      split at hp
      · next hlt =>
        -- every name of the list lies above the entity's
        have habove : ∀ n ∈ (q :: ps).map (·.name), byteLt e.namespaceName n := by
          intro n hn
          rcases List.mem_cons.1 hn with rfl | hn
          · exact hlt
          · exact byteLt_trans hlt (hq n hn)
        rcases List.mem_cons.1 hp with rfl | hp
        · right; right
          exact ⟨fun hn => byteLt_irrefl _ (habove _ hn), rfl⟩
        · left
          refine ⟨hp, fun hname => ?_⟩
          have hlt := habove p.name (List.mem_map_of_mem hp)
          rw [hname] at hlt
          exact byteLt_irrefl _ hlt
      · rcases List.mem_cons.1 hp with rfl | hp
        · left
          exact ⟨List.mem_cons_self, hne⟩
        · rcases ih hps hp with ⟨hmem, hname⟩ | ⟨r, hr, hname, heq⟩ | ⟨hnew, heq⟩
          · left
            exact ⟨List.mem_cons_of_mem _ hmem, hname⟩
          · right; left
            exact ⟨r, List.mem_cons_of_mem _ hr, hname, heq⟩
          · right; right
            refine ⟨fun hn => ?_, heq⟩
            rcases List.mem_cons.1 hn with heq | hn
            · exact hne heq.symm
            · exact hnew hn

/-! ## The invariant -/

/-- The index holds exactly the entities of a list. -/
structure Groups (index : NamespaceIndex) (es : List Entity) : Prop where
  ascending : Ascending index.namespaces
  mem_namespaces : ∀ n, n ∈ index.namespaces ↔ n ∈ es.map (·.namespaceName)
  eq_ofNamespace : ∀ p ∈ index.packages, p = Package.ofNamespace es p.name

theorem groups_empty : Groups empty [] where
  ascending := List.Pairwise.nil
  mem_namespaces _ := Iff.rfl
  eq_ofNamespace _ hp := absurd hp List.not_mem_nil

theorem Groups.insert {index : NamespaceIndex} {es : List Entity} (h : index.Groups es)
    (e : Entity) : (index.insert e).Groups (es ++ [e]) where
  ascending := ascending_insertInto h.ascending
  mem_namespaces n := by
    have hn : n ∈ (index.insert e).namespaces
        ↔ n = e.namespaceName ∨ n ∈ index.namespaces := mem_names_insertInto
    rw [hn, h.mem_namespaces, List.map_append, List.mem_append, List.map_singleton,
      List.mem_singleton, or_comm]
  eq_ofNamespace p hp := by
    rcases mem_insertInto h.ascending hp with ⟨hmem, hname⟩ | ⟨q, hq, hname, rfl⟩ | ⟨hnew, rfl⟩
    · rw [Package.ofNamespace_concat_ne es (Ne.symm hname)]
      exact h.eq_ofNamespace p hmem
    -- the package of the entity's namespace holds all that came before it
    · rw [Package.name_insert, hname, Package.ofNamespace_concat_self, ← hname,
        ← h.eq_ofNamespace q hq]
    · have hnone : ∀ d ∈ es, d.namespaceName ≠ e.namespaceName := by
        intro d hd heq
        apply hnew
        rw [← heq]
        exact (h.mem_namespaces _).2 (List.mem_map_of_mem hd)
      rw [Package.name_insert, Package.ofNamespace_concat_self,
        Package.ofNamespace_of_forall_ne hnone]

theorem Groups.insertAll {index : NamespaceIndex} {ds : List Entity} (h : index.Groups ds)
    (es : List Entity) : (es.foldl NamespaceIndex.insert index).Groups (ds ++ es) := by
  induction es generalizing index ds with
  | nil => rw [List.append_nil]; exact h
  | cons e es ih =>
    have hnext := ih (h.insert e)
    rw [List.append_assoc, List.singleton_append] at hnext
    exact hnext

theorem groups_ofList (es : List Entity) : (ofList es).Groups es :=
  groups_empty.insertAll es

/-! ## The packages of an index -/

theorem Groups.packages_eq {index : NamespaceIndex} {es : List Entity} (h : index.Groups es) :
    index.packages = index.namespaces.map (Package.ofNamespace es) := by
  rw [namespaces, List.map_map]
  conv_lhs => rw [← List.map_id index.packages]
  exact List.map_congr_left fun p hp => h.eq_ofNamespace p hp

theorem Groups.wellKinded {index : NamespaceIndex} {es : List Entity} (h : index.Groups es) :
    ∀ p ∈ index.packages, p.WellKinded := by
  intro p hp
  rw [h.eq_ofNamespace p hp]
  exact Package.wellKinded_ofNamespace es p.name

theorem Groups.mem_of_mem_package {index : NamespaceIndex} {es : List Entity}
    (h : index.Groups es) {p : Package} (hp : p ∈ index.packages) {e : Entity}
    (he : e ∈ p.interfaces ++ p.classes) : e ∈ es := by
  rw [h.eq_ofNamespace p hp, List.mem_append] at he
  rcases he with he | he
  · exact (List.mem_filter.1 he).1
  · exact (List.mem_filter.1 he).1

theorem Groups.namespaces_eq {index : NamespaceIndex} {es : List Entity} (h : index.Groups es) :
    index.namespaces = namespacesOf es :=
  h.ascending.eq_of_mem_iff (ascending_namespacesOf es) fun n =>
    (h.mem_namespaces n).trans mem_namespacesOf.symm

/-- The package of a namespace, if an entity has that namespace. -/
theorem Groups.get?_eq {index : NamespaceIndex} {es : List Entity} (h : index.Groups es)
    (n : String) :
    index.get? n = if n ∈ index.namespaces then some (Package.ofNamespace es n) else none := by
  have hpackages := h.packages_eq
  rw [get?, hpackages]
  generalize index.namespaces = names
  induction names with
  | nil => rfl
  | cons m names ih =>
    rw [List.map_cons, List.find?_cons, Package.name_ofNamespace]
    by_cases hm : m = n
    · simp [hm]
    · have hbeq : (m == n) = false := beq_false_of_ne hm
      rw [hbeq]
      simp [ih, Ne.symm hm]

end NamespaceIndex

end ClassAtlas
