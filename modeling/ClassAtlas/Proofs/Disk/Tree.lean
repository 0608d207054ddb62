import Mathlib.Data.List.Nodup
import ClassAtlas.Disk.Directory

/-! # File trees

    A `Directory` is a tree of files as a system keeps one when every name in it
    is a proper name and no directory has a name twice (`Directory.IsTree`).

    The three kinds of entries differ in what is below them only.  Proofs go
    through `Directory.recCons`, one entry at a time, and through `Entry.at?`,
    what an entry has at a place below it.
-/

namespace ClassAtlas

/-! ## Names -/

/-- A name that an entry can have: it is not empty, holds no slash and is none of
    the two names that every directory has for itself and for the one above. -/
def Name.IsProper (n : Name) : Prop :=
  n ≠ [] ∧ n ≠ Path.here ∧ n ≠ Path.up ∧ Path.slash ∉ n

instance (n : Name) : Decidable n.IsProper :=
  inferInstanceAs (Decidable (_ ∧ _ ∧ _ ∧ _))

namespace Directory

/-! ## Entry by entry -/

@[elab_as_elim]
theorem recCons {motive : Directory → Prop} (d : Directory) (empty : motive .empty)
    (cons : ∀ name e rest, (∀ inside, e = .directory inside → motive inside) → motive rest →
      motive (cons name e rest)) : motive d := by
  induction d with
  | empty => exact empty
  | file name contents rest ih => exact cons name (.file contents) rest (fun _ h => nomatch h) ih
  | link name target rest ih => exact cons name (.link target) rest (fun _ h => nomatch h) ih
  | directory name inside rest ihInside ih =>
    refine cons name (.directory inside) rest (fun d h => ?_) ih
    cases h
    exact ihInside

@[simp] theorem entries_cons (name : Name) (e : Entry) (rest : Directory) :
    (cons name e rest).entries = (name, e) :: rest.entries := by
  cases e <;> rfl

/-- The names of the entries, in order. -/
def names (d : Directory) : List Name := d.entries.map (·.1)

@[simp] theorem names_cons (name : Name) (e : Entry) (rest : Directory) :
    (cons name e rest).names = name :: rest.names := by
  rw [names, entries_cons]
  rfl

theorem find?_cons (name other : Name) (e : Entry) (rest : Directory) :
    (cons other e rest).find? name = if name = other then some e else rest.find? name := by
  rw [find?, entries_cons, List.lookup_cons]
  by_cases h : name = other
  · rw [if_pos h, beq_iff_eq.2 h]
  · rw [if_neg h, beq_false_of_ne h]
    rfl

theorem mem_names_of_find? {d : Directory} {name : Name} {e : Entry} (h : d.find? name = some e) :
    name ∈ d.names := by
  induction d using recCons with
  | empty => cases h
  | cons other f rest _ ih =>
    rw [find?_cons] at h
    rw [names_cons]
    by_cases heq : name = other
    · exact heq ▸ List.mem_cons_self
    · rw [if_neg heq] at h
      exact List.mem_cons_of_mem _ (ih h)

end Directory

/-! ## Places below an entry -/

/-- What an entry has at a place below it; only directories have anything there. -/
def Entry.at? : Entry → Place → Option Entry
  | .directory inside, place => inside.at? place
  | e, [] => some e
  | _, _ :: _ => none

@[simp] theorem Entry.at?_nil (e : Entry) : e.at? [] = some e := by
  cases e <;> simp [Entry.at?, Directory.at?]

namespace Directory

@[simp] theorem at?_nil (d : Directory) : d.at? [] = some (.directory d) := by
  rw [at?]

theorem at?_name_cons (d : Directory) (name : Name) (names : Place) :
    d.at? (name :: names) = (d.find? name).bind (·.at? names) := by
  rw [at?]
  cases d.find? name with
  | none => rfl
  | some e => cases e <;> cases names <;> rfl

theorem at?_cons (name other : Name) (names : Place) (e : Entry) (rest : Directory) :
    (cons other e rest).at? (name :: names)
      = if name = other then e.at? names else rest.at? (name :: names) := by
  rw [at?_name_cons, at?_name_cons, find?_cons]
  split <;> rfl

end Directory

theorem Entry.at?_append (e : Entry) (p q : Place) : e.at? (p ++ q) = (e.at? p).bind (·.at? q) := by
  induction p generalizing e with
  | nil => simp
  | cons name p ih =>
    cases e with
    | directory inside =>
      rw [List.cons_append, Entry.at?, Entry.at?, Directory.at?_name_cons, Directory.at?_name_cons,
        Option.bind_assoc]
      exact Option.bind_congr fun e _ => ih e
    | file contents => rfl
    | link target => rfl

/-- What directories hand on to their entries holds at every place below. -/
theorem Entry.at?_inherits {P : Entry → Prop}
    (hP : ∀ inside name e, P (.directory inside) → inside.find? name = some e → P e)
    {e f : Entry} (he : P e) {place : Place} (hf : e.at? place = some f) : P f := by
  induction place generalizing e with
  | nil =>
    rw [Entry.at?_nil] at hf
    cases hf
    exact he
  | cons name place ih =>
    cases e with
    | directory inside =>
      rw [Entry.at?, Directory.at?_name_cons] at hf
      obtain ⟨g, hg, hbelow⟩ := Option.bind_eq_some_iff.1 hf
      exact ih (hP inside name g he hg) hbelow
    | file contents => cases hf
    | link target => cases hf

namespace Directory

theorem at?_append (d : Directory) (p q : Place) : d.at? (p ++ q) = (d.at? p).bind (·.at? q) :=
  Entry.at?_append (.directory d) p q

theorem at?_concat {d inside : Directory} {p : Place} (h : d.at? p = some (.directory inside))
    (name : Name) : d.at? (p ++ [name]) = inside.find? name := by
  rw [at?_append, h, Option.bind_some, Entry.at?, at?_name_cons]
  cases inside.find? name <;> simp

/-- Above an entry there are directories only. -/
theorem exists_directory_of_at? {d : Directory} {p q : Place} {e : Entry}
    (h : d.at? (p ++ q) = some e) (hq : q ≠ []) : ∃ inside, d.at? p = some (.directory inside) := by
  rw [at?_append] at h
  obtain ⟨f, hf, he⟩ := Option.bind_eq_some_iff.1 h
  cases f with
  | directory inside => exact ⟨inside, hf⟩
  | file contents =>
    obtain ⟨name, names, rfl⟩ := List.exists_cons_of_ne_nil hq
    cases he
  | link target =>
    obtain ⟨name, names, rfl⟩ := List.exists_cons_of_ne_nil hq
    cases he

/-! ## Trees -/

/-- Every name in the tree is proper, and no directory has one twice. -/
def IsTree : Directory → Prop
  | .empty => True
  | .file name _ rest => name.IsProper ∧ name ∉ rest.names ∧ rest.IsTree
  | .link name _ rest => name.IsProper ∧ name ∉ rest.names ∧ rest.IsTree
  | .directory name inside rest =>
    name.IsProper ∧ name ∉ rest.names ∧ inside.IsTree ∧ rest.IsTree

instance decidableIsTree : (d : Directory) → Decidable d.IsTree
  | .empty => inferInstanceAs (Decidable True)
  | .file name _ rest =>
    have := decidableIsTree rest
    inferInstanceAs (Decidable (name.IsProper ∧ name ∉ rest.names ∧ rest.IsTree))
  | .link name _ rest =>
    have := decidableIsTree rest
    inferInstanceAs (Decidable (name.IsProper ∧ name ∉ rest.names ∧ rest.IsTree))
  | .directory name inside rest =>
    have := decidableIsTree inside
    have := decidableIsTree rest
    inferInstanceAs (Decidable (name.IsProper ∧ name ∉ rest.names ∧ inside.IsTree ∧ rest.IsTree))

end Directory

/-- What is below the entry is a tree. -/
def Entry.IsTree : Entry → Prop
  | .directory inside => inside.IsTree
  | _ => True

namespace Directory

theorem isTree_cons_iff {name : Name} {e : Entry} {rest : Directory} :
    (cons name e rest).IsTree ↔ name.IsProper ∧ name ∉ rest.names ∧ e.IsTree ∧ rest.IsTree := by
  cases e <;> simp [cons, IsTree, Entry.IsTree]

theorem IsTree.find? {d : Directory} (h : d.IsTree) {name : Name} {e : Entry}
    (he : d.find? name = some e) : name.IsProper ∧ e.IsTree := by
  induction d using recCons with
  | empty => cases he
  | cons other f rest _ ih =>
    obtain ⟨hname, -, hf, hrest⟩ := isTree_cons_iff.1 h
    rw [find?_cons] at he
    by_cases heq : name = other
    · rw [if_pos heq] at he
      cases he
      exact ⟨heq ▸ hname, hf⟩
    · rw [if_neg heq] at he
      exact ih hrest he

theorem IsTree.at? {d : Directory} (h : d.IsTree) {place : Place} {e : Entry}
    (he : d.at? place = some e) : e.IsTree :=
  Entry.at?_inherits (P := Entry.IsTree) (fun _ _ _ hinside hf => (hinside.find? hf).2)
    (e := .directory d) h he

/-- The names that lead to an entry are proper. -/
theorem IsTree.isProper_of_at? {d : Directory} (h : d.IsTree) {place : Place} {e : Entry}
    (he : d.at? place = some e) : ∀ n ∈ place, n.IsProper := by
  intro n hn
  obtain ⟨p, q, rfl⟩ := List.append_of_mem hn
  obtain ⟨inside, hinside⟩ := exists_directory_of_at? he (List.cons_ne_nil n q)
  have hbelow : inside.at? (n :: q) = some e := by
    rwa [at?_append, hinside] at he
  rw [at?_name_cons] at hbelow
  obtain ⟨f, hf, -⟩ := Option.bind_eq_some_iff.1 hbelow
  have htree : inside.IsTree := h.at? hinside
  exact (htree.find? hf).1

end Directory

/-! ## All places of a tree -/

/-- What is below an entry, by the names that lead there from it. -/
def Entry.places : Entry → List (Place × Entry)
  | .directory inside => inside.places
  | _ => []

namespace Directory

theorem places_cons (name : Name) (e : Entry) (rest : Directory) :
    (cons name e rest).places
      = ([name], e) :: e.places.map (fun x => (name :: x.1, x.2)) ++ rest.places := by
  cases e <;> rfl

theorem mem_places_cons_iff {name other : Name} {names : Place} {e f : Entry} {rest : Directory} :
    (other :: names, e) ∈ (cons name f rest).places
      ↔ other = name ∧ (names = [] ∧ e = f ∨ (names, e) ∈ f.places)
        ∨ (other :: names, e) ∈ rest.places := by
  rw [places_cons, List.cons_append, List.mem_cons, List.mem_append, List.mem_map]
  constructor
  · rintro (h | ⟨x, hx, h⟩ | h)
    · cases h
      exact .inl ⟨rfl, .inl ⟨rfl, rfl⟩⟩
    · cases h
      exact .inl ⟨rfl, .inr hx⟩
    · exact .inr h
  · rintro (⟨rfl, ⟨rfl, rfl⟩ | h⟩ | h)
    · exact .inl rfl
    · exact .inr (.inl ⟨_, h, rfl⟩)
    · exact .inr (.inr h)

theorem ne_nil_of_mem_places {d : Directory} {place : Place} {e : Entry}
    (h : (place, e) ∈ d.places) : place ≠ [] := by
  induction d using recCons with
  | empty => cases h
  | cons name f rest _ ih =>
    rw [places_cons, List.cons_append, List.mem_cons, List.mem_append, List.mem_map] at h
    rcases h with h | ⟨x, -, h⟩ | h
    · cases h
      exact List.cons_ne_nil _ _
    · cases h
      exact List.cons_ne_nil _ _
    · exact ih h

end Directory

theorem Entry.ne_nil_of_mem_places {e f : Entry} {place : Place} (h : (place, f) ∈ e.places) :
    place ≠ [] := by
  cases e with
  | directory inside => exact Directory.ne_nil_of_mem_places h
  | file contents => cases h
  | link target => cases h

namespace Directory

/-- Nothing has a name that is not listed. -/
theorem at?_eq_none_of_not_mem_names {d : Directory} {name : Name} (h : name ∉ d.names)
    (names : Place) : d.at? (name :: names) = none := by
  rw [at?_name_cons, Option.bind_eq_none_iff]
  intro e he
  exact absurd (mem_names_of_find? he) h

/-- In a tree, the places are those where something is. -/
theorem IsTree.mem_places_iff {d : Directory} (h : d.IsTree) {place : Place} {e : Entry} :
    (place, e) ∈ d.places ↔ place ≠ [] ∧ d.at? place = some e := by
  induction d using recCons generalizing place with
  | empty =>
    cases place with
    | nil => simp [places]
    | cons name names =>
      rw [at?_eq_none_of_not_mem_names List.not_mem_nil]
      simp [places]
  | cons name f rest hinside ih =>
    cases place with
    | nil => exact iff_of_false (fun hmem => ne_nil_of_mem_places hmem rfl) (fun hne => hne.1 rfl)
    | cons other names =>
      obtain ⟨-, hnew, hf, hrest⟩ := isTree_cons_iff.1 h
      have hbelow : names = [] ∧ e = f ∨ (names, e) ∈ f.places ↔ f.at? names = some e := by
        cases f with
        | directory inside =>
          rw [Entry.places, hinside inside rfl hf, Entry.at?]
          by_cases hnames : names = []
          · simp [hnames, eq_comm]
          · simp [hnames]
        | file contents => cases names <;> simp [Entry.places, Entry.at?, eq_comm]
        | link target => cases names <;> simp [Entry.places, Entry.at?, eq_comm]
      have hne : other :: names ≠ [] := List.cons_ne_nil other names
      rw [mem_places_cons_iff, hbelow, ih hrest, at?_cons]
      by_cases heq : other = name
      · rw [if_pos heq, heq, at?_eq_none_of_not_mem_names hnew names]
        simp
      · simp [heq]

/-- In a tree, no place is listed twice. -/
theorem IsTree.nodup_places {d : Directory} (h : d.IsTree) : (d.places.map (·.1)).Nodup := by
  induction d using recCons with
  | empty => exact List.nodup_nil
  | cons name e rest hinside ih =>
    obtain ⟨-, hnew, he, hrest⟩ := isTree_cons_iff.1 h
    have hbelow : (e.places.map (·.1)).Nodup := by
      cases e with
      | directory inside => exact hinside inside rfl he
      | file contents => exact List.nodup_nil
      | link target => exact List.nodup_nil
    have hfirst : ∀ names, name :: names ∉ rest.places.map (·.1) := by
      intro names hmem
      obtain ⟨⟨place, f⟩, hplace, heq⟩ := List.mem_map.1 hmem
      cases heq
      have hat := (hrest.mem_places_iff.1 hplace).2
      rw [at?_eq_none_of_not_mem_names hnew] at hat
      cases hat
    have hown : [name] ∉ (e.places.map (·.1)).map (name :: ·) := by
      intro hmem
      obtain ⟨place, hplace, heq⟩ := List.mem_map.1 hmem
      obtain ⟨⟨_, f⟩, hbelow, rfl⟩ := List.mem_map.1 hplace
      exact Entry.ne_nil_of_mem_places hbelow (List.cons.inj heq).2
    have hnames : (cons name e rest).places.map (·.1)
        = [name] :: ((e.places.map (·.1)).map (name :: ·) ++ rest.places.map (·.1)) := by
      simp [places_cons]
    rw [hnames, List.nodup_cons, List.mem_append, not_or]
    refine ⟨⟨hown, hfirst []⟩, List.nodup_append.2 ⟨?_, ih hrest, ?_⟩⟩
    · exact hbelow.map (List.cons_injective)
    · rintro _ hleft _ hright rfl
      obtain ⟨names, -, rfl⟩ := List.mem_map.1 hleft
      exact hfirst names hright

/-! ## Trees without links -/

/-- No entry of the tree is a link. -/
def LinkFree : Directory → Prop
  | .empty => True
  | .file _ _ rest => rest.LinkFree
  | .link .. => False
  | .directory _ inside rest => inside.LinkFree ∧ rest.LinkFree

instance decidableLinkFree : (d : Directory) → Decidable d.LinkFree
  | .empty => inferInstanceAs (Decidable True)
  | .file _ _ rest => decidableLinkFree rest
  | .link .. => inferInstanceAs (Decidable False)
  | .directory _ inside rest =>
    have := decidableLinkFree inside
    have := decidableLinkFree rest
    inferInstanceAs (Decidable (inside.LinkFree ∧ rest.LinkFree))

end Directory

/-- The entry is no link, and none is below it. -/
def Entry.LinkFree : Entry → Prop
  | .file _ => True
  | .link _ => False
  | .directory inside => inside.LinkFree

namespace Directory

theorem linkFree_cons_iff {name : Name} {e : Entry} {rest : Directory} :
    (cons name e rest).LinkFree ↔ e.LinkFree ∧ rest.LinkFree := by
  cases e <;> simp [cons, LinkFree, Entry.LinkFree]

theorem LinkFree.find? {d : Directory} (h : d.LinkFree) {name : Name} {e : Entry}
    (he : d.find? name = some e) : e.LinkFree := by
  induction d using recCons with
  | empty => cases he
  | cons other f rest _ ih =>
    obtain ⟨hf, hrest⟩ := linkFree_cons_iff.1 h
    rw [find?_cons] at he
    by_cases heq : name = other
    · rw [if_pos heq] at he
      cases he
      exact hf
    · rw [if_neg heq] at he
      exact ih hrest he

theorem LinkFree.at? {d : Directory} (h : d.LinkFree) {place : Place} {e : Entry}
    (he : d.at? place = some e) : e.LinkFree :=
  Entry.at?_inherits (P := Entry.LinkFree) (fun _ _ _ hinside hf => hinside.find? hf)
    (e := .directory d) h he

/-- In a tree without links no directory has one. -/
theorem LinkFree.find?_ne_link {d inside : Directory} (h : d.LinkFree) {place : Place}
    (hplace : d.at? place = some (.directory inside)) (name : Name) (target : Path) :
    inside.find? name ≠ some (.link target) := by
  intro hfind
  have hinside : Entry.LinkFree (.directory inside) := h.at? hplace
  exact (LinkFree.find? hinside hfind).elim

end Directory

end ClassAtlas
