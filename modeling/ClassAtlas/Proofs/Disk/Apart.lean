import ClassAtlas.Disk.Change
import ClassAtlas.Proofs.Disk.Putting
import ClassAtlas.Proofs.Disk.Walking
import ClassAtlas.Proofs.Path.Climbing

/-! # Looking apart from a change

    Two trees that are alike apart from a place are alike for all who look
    elsewhere.  In a tree without links the names of a path say which places a
    walk passes, so a path that avoids the place finds the same in both, or
    fails in both in the same way.
-/

namespace ClassAtlas

/-- What is reached, without what is in it. -/
def Reached.shallow : Reached → Reached
  | .entry place e => .entry place e.shallow
  | .free parent name => .free parent name

/-- Entries that are alike are the same or two directories. -/
theorem Entry.eq_or_directories {e e' : Entry} (h : e'.shallow = e.shallow) :
    e' = e ∧ (∀ inside, e ≠ .directory inside)
      ∨ ∃ inside inside', e = .directory inside ∧ e' = .directory inside' := by
  cases e with
  | directory inside =>
    cases e' with
    | directory inside' => exact .inr ⟨inside, inside', rfl, rfl⟩
    | file | link => cases h
  | file contents =>
    cases e' with
    | file => exact .inl ⟨h, nofun⟩
    | link | directory => cases h
  | link target =>
    cases e' with
    | link => exact .inl ⟨h, nofun⟩
    | file | directory => cases h

/-- Results that are alike are the same failure or successes that are alike. -/
theorem failures_or_successes {ε α β : Type} {f : α → β} {x x' : Except ε α}
    (h : x'.map f = x.map f) :
    (∃ e, x = .error e ∧ x' = .error e) ∨ ∃ a a', x = .ok a ∧ x' = .ok a' ∧ f a' = f a := by
  cases x with
  | error e =>
    cases x' with
    | error e' =>
      cases h
      exact .inl ⟨e, rfl, rfl⟩
    | ok a' => cases h
  | ok a =>
    cases x' with
    | error e' => cases h
    | ok a' => exact .inr ⟨a, a', rfl, rfl, Except.ok.inj h⟩

/-- Directories at the same place have the same names, but for that of the change. -/
theorem Directory.SameApart.mem_names_iff {apart place : Place} {top top' inside inside' : Directory}
    (h : top.SameApart apart top') (hat : top.at? place = some (.directory inside))
    (hat' : top'.at? place = some (.directory inside')) {name : Name}
    (haway : ¬ apart <+: place ++ [name]) : name ∈ inside'.names ↔ name ∈ inside.names := by
  have hfound := h _ haway
  rw [Directory.at?_concat hat, Directory.at?_concat hat'] at hfound
  have hsome := congrArg Option.isSome hfound
  rw [Option.isSome_map, Option.isSome_map, Bool.eq_iff_iff, Option.isSome_iff_exists,
    Option.isSome_iff_exists] at hsome
  rw [Directory.mem_names_iff_exists_find?, Directory.mem_names_iff_exists_find?]
  exact hsome

namespace Disk

/-! ## Walks -/

section

variable {apart : Place} {top top' : Directory}

theorem arrive_sameApart (h : top.SameApart apart top') {place : Place}
    (haway : ¬ apart <+: place) (purpose : Purpose) (slash : Bool) :
    (arrive top' purpose place slash).map Reached.shallow
      = (arrive top purpose place slash).map Reached.shallow := by
  have hplace := h place haway
  unfold arrive
  cases hold : top.at? place with
  | none =>
    rw [hold, Option.map_none, Option.map_eq_none_iff] at hplace
    rw [hplace]
  | some e =>
    rw [hold] at hplace
    obtain ⟨e', hnew, hsame⟩ := Option.map_eq_some_iff.1 hplace
    rw [hnew]
    rcases Entry.eq_or_directories hsame with ⟨rfl, -⟩ | ⟨inside, inside', rfl, rfl⟩
    · rfl
    · rfl

/-- Walks that avoid the place come to the same. -/
theorem walk_sameApart (hfree : top.LinkFree) (h : top.SameApart apart top') {place : Place}
    {names : List Name} (haway : ∀ way, way <+: names → ¬ apart <+: place.follow way)
    (purpose : Purpose) (links : Nat) (slash : Bool) :
    (walk top' purpose links place names slash).map Reached.shallow
      = (walk top purpose links place names slash).map Reached.shallow := by
  induction names generalizing place with
  | nil =>
    rw [walk, walk]
    exact arrive_sameApart h (haway [] List.nil_prefix) purpose slash
  | cons name names ih =>
    have hrest : ∀ way, way <+: names → ¬ apart <+: (place.step name).follow way :=
      fun way hway => haway (name :: way) (List.cons_prefix_cons.2 ⟨rfl, hway⟩)
    have hplace := h place (haway [] List.nil_prefix)
    rw [walk, walk]
    cases hold : top.at? place with
    | none =>
      rw [hold, Option.map_none, Option.map_eq_none_iff] at hplace
      rw [hplace]
    | some e =>
      rw [hold] at hplace
      obtain ⟨e', hnew, hsame⟩ := Option.map_eq_some_iff.1 hplace
      rw [hnew]
      rcases Entry.eq_or_directories hsame with ⟨rfl, hfile⟩ | ⟨inside, inside', rfl, rfl⟩
      · cases e' with
        | directory inside => exact absurd rfl (hfile inside)
        | file | link => rfl
      · simp only
        by_cases hhere : name = Path.here
        · rw [if_pos hhere, if_pos hhere]
          rw [Place.step, if_pos hhere] at hrest
          exact ih hrest
        by_cases hup : name = Path.up
        · rw [if_neg hhere, if_neg hhere, if_pos hup, if_pos hup]
          rw [Place.step, if_neg hhere, if_pos hup] at hrest
          exact ih hrest
        rw [Place.step, if_neg hhere, if_neg hup] at hrest
        have hfound := h (place ++ [name]) (hrest [] List.nil_prefix)
        rw [Directory.at?_concat hold, Directory.at?_concat hnew] at hfound
        simp only [if_neg hhere, if_neg hup]
        split
        · rfl
        split
        · rfl
        cases hfind : inside.find? name with
        | none =>
          rw [hfind, Option.map_none, Option.map_eq_none_iff] at hfound
          rw [hfound]
        | some f =>
          rw [hfind] at hfound
          obtain ⟨f', hfind', hsame⟩ := Option.map_eq_some_iff.1 hfound
          rw [hfind']
          -- neither entry is a link, so both walks go on from it
          rcases Entry.eq_or_directories hsame with ⟨rfl, hfile⟩ | ⟨inside, inside', rfl, rfl⟩
          · cases f' with
            | directory inside => exact absurd rfl (hfile inside)
            | link target => exact absurd hfind (hfree.find?_ne_link hold _ _)
            | file contents => exact ih hrest
          · exact ih hrest

end

/-! ## Paths -/

/-- The disks have the same current directory and, apart from the place, the same
    tree. -/
structure SameApart (apart : Place) (disk disk' : Disk) : Prop where
  top : disk.top.SameApart apart disk'.top
  cwd : disk'.cwd = disk.cwd

/-- By its names, the path leads past neither the place nor anything below it. -/
def Avoids (disk : Disk) (apart : Place) (p : Path) : Prop :=
  ∀ way, way <+: p.names → ¬ apart <+: (origin disk.cwd p).follow way

/-- A path that avoids the place can be followed further down, but not to it. -/
theorem Avoids.below {disk : Disk} {apart : Place} {p : Path} (h : disk.Avoids apart p)
    {place : Place} (hproper : ∀ n ∈ place, n.IsProper)
    (hapart : ¬ apart <+: (origin disk.cwd p).follow p.names ++ place) :
    disk.Avoids apart (p.below place) := by
  intro way hway hbelow
  have horigin : origin disk.cwd (p.below place) = origin disk.cwd p := by
    rw [origin, origin, Path.isAbsolute_below p hproper]
  rw [Path.names_below p hproper] at hway
  rw [horigin] at hbelow
  rcases isPrefix_append_cases hway with hsooner | ⟨more, hmore, rfl⟩
  · exact h way hsooner hbelow
  · have hordinary : ∀ n ∈ more, n ≠ Path.here ∧ n ≠ Path.up := fun n hn =>
      ⟨(hproper n (hmore.subset hn)).2.1, (hproper n (hmore.subset hn)).2.2.1⟩
    rw [Place.follow_append, Place.follow_of_ordinary _ hordinary] at hbelow
    exact hapart (hbelow.trans ((List.prefix_append_right_inj _).2 hmore))

theorem SameApart.trans {apart : Place} {disk₁ disk₂ disk₃ : Disk} (h₁ : SameApart apart disk₁ disk₂)
    (h₂ : SameApart apart disk₂ disk₃) : SameApart apart disk₁ disk₃ :=
  ⟨h₁.top.trans h₂.top, h₂.cwd.trans h₁.cwd⟩

@[simp] theorem put_top (disk : Disk) (place : Place) (e : Entry) :
    (disk.put place e).top = disk.top.putAt place e := rfl

theorem sameApart_put (disk : Disk) (place : Place) (e : Entry) :
    SameApart place disk (disk.put place e) := ⟨Directory.sameApart_putAt disk.top place e, rfl⟩

section

variable {apart : Place} {disk disk' : Disk} {p : Path} (hfree : disk.top.LinkFree)
  (h : SameApart apart disk disk') (haway : disk.Avoids apart p)

include hfree h haway

theorem reach_sameApart (purpose : Purpose) :
    (disk'.reach purpose p).map Reached.shallow = (disk.reach purpose p).map Reached.shallow := by
  unfold reach
  rw [h.cwd]
  split
  · rfl
  split
  · rfl
  split
  · rfl
  · exact walk_sameApart hfree h.top haway purpose linkLimit p.endsInSlash

theorem entry_sameApart :
    (disk'.entry p).map Entry.shallow = (disk.entry p).map Entry.shallow := by
  unfold entry
  rcases failures_or_successes (reach_sameApart hfree h haway .visit) with
    ⟨e, hold, hnew⟩ | ⟨reached, reached', hold, hnew, hsame⟩
  · rw [hold, hnew]
  · rw [hold, hnew]
    cases reached with
    | free parent name =>
      cases reached' with
      | free => rfl
      | entry => cases hsame
    | entry place e =>
      cases reached' with
      | free => cases hsame
      | entry place' e' =>
        injection hsame with _ hshallow
        exact congrArg Except.ok hshallow

theorem exists?_sameApart : disk'.exists? p = disk.exists? p := by
  unfold exists?
  rcases failures_or_successes (entry_sameApart hfree h haway) with
    ⟨e, hold, hnew⟩ | ⟨e, e', hold, hnew, -⟩
  · rw [hold, hnew]
  · rw [hold, hnew]

theorem contents?_sameApart : disk'.contents? p = disk.contents? p := by
  unfold contents?
  rcases failures_or_successes (entry_sameApart hfree h haway) with
    ⟨e, hold, hnew⟩ | ⟨e, e', hold, hnew, hsame⟩
  · rw [hold, hnew]
  · rw [hold, hnew]
    rcases Entry.eq_or_directories hsame with ⟨rfl, -⟩ | ⟨inside, inside', rfl, rfl⟩
    · rfl
    · rfl

theorem read_sameApart : disk'.read p = disk.read p := by
  unfold read
  rcases failures_or_successes (entry_sameApart hfree h haway) with
    ⟨e, hold, hnew⟩ | ⟨e, e', hold, hnew, hsame⟩
  · rw [hold, hnew]
  · rw [hold, hnew]
    rcases Entry.eq_or_directories hsame with ⟨rfl, -⟩ | ⟨inside, inside', rfl, rfl⟩
    · rfl
    · rfl

theorem isFile_sameApart : disk'.isFile p = disk.isFile p := by
  rw [isFile, isFile, contents?_sameApart hfree h haway]

/-- The same place is reached, if the path leads to a directory. -/
theorem reach_directory_sameApart {place : Place} {inside : Directory}
    (hreach : disk.reach .visit p = .ok (.entry place (.directory inside))) :
    ∃ inside', disk'.reach .visit p = .ok (.entry place (.directory inside')) := by
  have hsame := reach_sameApart hfree h haway .visit
  rw [hreach] at hsame
  rcases failures_or_successes hsame with ⟨e, hold, -⟩ | ⟨reached, reached', hold, hnew, hshallow⟩
  · cases hold
  · cases hold
    cases reached' with
    | free => cases hshallow
    | entry place' e' =>
      injection hshallow with hplace he
      cases e' with
      | directory inside' =>
        rw [hnew, hplace]
        exact ⟨inside', rfl⟩
      | file | link => cases he

theorem isDirectory_sameApart : disk'.isDirectory p = disk.isDirectory p := by
  unfold isDirectory directory?
  rcases failures_or_successes (entry_sameApart hfree h haway) with
    ⟨e, hold, hnew⟩ | ⟨e, e', hold, hnew, hsame⟩
  · rw [hold, hnew]
  · rw [hold, hnew]
    rcases Entry.eq_or_directories hsame with ⟨rfl, -⟩ | ⟨inside, inside', rfl, rfl⟩
    · rfl
    · rfl

end

/-! ## Ways of directories -/

section

variable {top : Directory}

/-- Above a directory there are directories only. -/
theorem exists_directory_of_isPrefix {place above : Place} {inside : Directory}
    (h : top.at? place = some (.directory inside)) (habove : above <+: place) :
    ∃ d, top.at? above = some (.directory d) := by
  obtain ⟨more, rfl⟩ := habove
  by_cases hmore : more = []
  · subst hmore
    rw [List.append_nil] at h
    exact ⟨inside, h⟩
  · exact Directory.exists_directory_of_at? h hmore

/-- Without links, the walk to a directory passes directories only. -/
theorem Leads.directory_on_way (hfree : top.LinkFree) {links : Nat} {place q : Place}
    {names : List Name} {slash : Bool} {inside : Directory}
    (h : Leads top .visit links place names slash (.entry q (.directory inside)))
    {way : List Name} (hway : way <+: names) :
    ∃ d, top.at? (place.follow way) = some (.directory d) := by
  generalize hreached : Reached.entry q (.directory inside) = reached at h
  -- a first part of the names is none of them or goes on from where the first one leads
  have hfirst : ∀ {place : Place} {name : Name} {rest way : List Name} {d : Directory},
      top.at? place = some (.directory d) → way <+: name :: rest →
      (∀ {way'}, way' <+: rest → ∃ d, top.at? ((place.step name).follow way') = some (.directory d)) →
      ∃ d, top.at? (place.follow way) = some (.directory d) := by
    intro place name rest way d hplace hway hrest
    cases way with
    | nil => exact ⟨d, hplace⟩
    | cons first way =>
      obtain ⟨rfl, hmore⟩ := List.cons_prefix_cons.1 hway
      exact hrest hmore
  induction h generalizing way with
  | arrive h =>
    subst hreached
    obtain ⟨rfl, hplace⟩ := of_arrive h
    rw [List.prefix_nil.1 hway]
    exact ⟨inside, hplace⟩
  | here hplace _ ih =>
    apply hfirst hplace hway
    intro way' hway'
    rw [Place.step, if_pos rfl]
    exact ih hway' hreached
  | up hplace _ ih =>
    apply hfirst hplace hway
    intro way' hway'
    rw [Place.step, if_neg (by decide), if_pos rfl]
    exact ih hway' hreached
  | free => cases hreached
  | link => cases hreached
  | follow hname _ _ hfind => exact absurd hfind (hfree.find?_ne_link hname.place _ _)
  | enter hname _ _ _ _ ih =>
    apply hfirst hname.place hway
    intro way' hway'
    rw [Place.step, if_neg hname.here, if_neg hname.up]
    exact ih hway' hreached

end

/-- The way to a directory keeps apart from a place where there is none. -/
theorem avoids_of_reach {disk : Disk} (hfree : disk.top.LinkFree) {apart place : Place} {p : Path}
    {inside : Directory} (hapart : ∀ inside, disk.top.at? apart ≠ some (.directory inside))
    (hp : disk.reach .visit p = .ok (.entry place (.directory inside))) : disk.Avoids apart p := by
  intro way hway hprefix
  obtain ⟨d, hd⟩ := (reach_eq_ok_iff.1 hp).2.directory_on_way hfree hway
  obtain ⟨d', hd'⟩ := exists_directory_of_isPrefix hd hprefix
  exact hapart d' hd'

end Disk

end ClassAtlas
