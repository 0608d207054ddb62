import ClassAtlas.Text.Utf8

/-! # Paths

    A path is any sequence of bytes; names stand between slashes.  Nothing here
    looks at a disk: paths are taken apart, joined and climbed by their text.

    Empty names (repeated slashes) and names `.` are idle, they do not count as
    steps, with one exception: a `.` that opens a relative path.  A name `..`
    is a step like any other.
-/

namespace ClassAtlas

/-- The name of a directory entry. -/
abbrev Name : Type := Bytes

/-- The path of a file or directory, absolute or relative. -/
structure Path where
  bytes : Bytes
  deriving DecidableEq, Repr, Inhabited

namespace Path

/-- The byte that separates names. -/
def slash : UInt8 := 0x2F

/-- The byte `.` -/
def dot : UInt8 := 0x2E

/-- The name of the directory itself. -/
def here : Name := [dot]

/-- The name of the directory above. -/
def up : Name := [dot, dot]

/-- The path that a text spells. -/
def ofString (s : String) : Path := ⟨Utf8.encode s⟩

/-- The path as it is shown: bytes that are no text become U+FFFD. -/
def shown (p : Path) : String := Utf8.lossy p.bytes

/-- The path of no byte at all. -/
def empty : Path := ⟨[]⟩

/-- The top directory. -/
def top : Path := ⟨[slash]⟩

def isAbsolute (p : Path) : Bool := p.bytes.head? == some slash

def endsInSlash (p : Path) : Bool := p.bytes.getLast? == some slash

/-! ## Names -/

/-- The bytes before the first slash, and the names after each slash. -/
def cut : Bytes → Name × List Name
  | [] => ([], [])
  | b :: bs =>
    if b = slash then ([], (cut bs).1 :: (cut bs).2)
    else (b :: (cut bs).1, (cut bs).2)

/-- The bytes that `cut` takes apart. -/
def paste (first : Name) (more : List Name) : Bytes :=
  first ++ more.flatMap (slash :: ·)

/-- A name that is no step. -/
def isIdle (n : Name) : Bool := n == [] || n == here

/-- The names without the idle ones at the end. -/
def trim (names : List Name) : List Name :=
  (names.reverse.dropWhile isIdle).reverse

/-- The steps of a path, from the outermost in. -/
def steps (p : Path) : List Name :=
  ((cut p.bytes).1 :: (cut p.bytes).2).filter (! isIdle ·)

/-! ## Comparing -/

/-- Whether a `.` opens the path. -/
def opensHere (p : Path) : Bool := (cut p.bytes).1 == here

/-- Whether two paths take the same steps from the same start, whatever idle
    names they go through. -/
def sameAs (p q : Path) : Bool :=
  p.isAbsolute == q.isAbsolute && p.opensHere == q.opensHere && p.steps == q.steps

/-! ## Joining -/

/-- The path that follows `rel` from `base`: an absolute `rel` stands alone,
    otherwise a slash separates the two, unless `base` is empty or has one. -/
def join (base rel : Path) : Path :=
  if rel.isAbsolute then rel
  else if base.bytes = [] ∨ base.endsInSlash then ⟨base.bytes ++ rel.bytes⟩
  else ⟨base.bytes ++ slash :: rel.bytes⟩

/-- The path of an entry of a directory. -/
def child (base : Path) (n : Name) : Path := base.join ⟨n⟩

/-! ## Climbing -/

/-- The path without its last step.  The top directory and the empty path have
    none; a relative path of one step ends in the empty path. -/
def parent? (p : Path) : Option Path :=
  let (first, more) := cut p.bytes
  let named := trim more
  if named.isEmpty then
    if first.isEmpty then none else some empty
  else
    let kept := trim named.dropLast
    if kept.isEmpty && first.isEmpty then some top
    else some ⟨paste first kept⟩

theorem paste_cut (bs : Bytes) : paste (cut bs).1 (cut bs).2 = bs := by
  induction bs with
  | nil => rfl
  | cons b bs ih =>
    by_cases h : b = slash <;> simp_all [cut, paste]

theorem trim_isPrefix (names : List Name) : trim names <+: names := by
  rw [trim, ← List.reverse_suffix, List.reverse_reverse]
  exact List.dropWhile_suffix _

theorem length_paste (first : Name) (more : List Name) :
    (paste first more).length = first.length + (paste [] more).length := by
  simp [paste]

theorem length_paste_concat (more : List Name) (n : Name) :
    (paste [] (more ++ [n])).length = (paste [] more).length + (n.length + 1) := by
  simp [paste]

theorem getLast_trim_ne_nil {names : List Name} (h : trim names ≠ []) :
    (trim names).getLast h ≠ [] := by
  have hr : names.reverse.dropWhile isIdle ≠ [] := by simpa [trim] using h
  have := List.head_dropWhile_not isIdle hr
  intro hn
  simp only [trim, List.getLast_reverse] at hn
  rw [hn] at this
  simp [isIdle] at this

theorem length_paste_le_of_isPrefix {xs ys : List Name} (h : xs <+: ys) :
    (paste [] xs).length ≤ (paste [] ys).length := by
  obtain ⟨zs, rfl⟩ := h
  simp [paste]

/-- Climbing makes a path shorter. -/
theorem length_parent?_lt {p q : Path} (h : p.parent? = some q) :
    q.bytes.length < p.bytes.length := by
  have hp := congrArg List.length (paste_cut p.bytes)
  rw [length_paste] at hp
  rw [← hp]
  simp only [parent?] at h
  generalize hc : cut p.bytes = c at h ⊢
  obtain ⟨first, more⟩ := c
  simp only at h ⊢
  have hle := length_paste_le_of_isPrefix (trim_isPrefix more)
  by_cases hn : (trim more).isEmpty
  · -- only the first name counts
    rw [if_pos hn] at h
    by_cases hf : first.isEmpty
    · rw [if_pos hf] at h; cases h
    · rw [if_neg hf] at h
      cases h
      have : first ≠ [] := by simpa using hf
      have := List.length_pos_iff.2 this
      simp only [empty, List.length_nil]; omega
  · rw [if_neg hn] at h
    have hne : trim more ≠ [] := by simpa using hn
    have hlast := List.length_pos_iff.2 (getLast_trim_ne_nil hne)
    have hsplit := length_paste_concat (trim more).dropLast ((trim more).getLast hne)
    rw [List.dropLast_concat_getLast hne] at hsplit
    have hkept := length_paste_le_of_isPrefix (trim_isPrefix (trim more).dropLast)
    by_cases hk : ((trim (trim more).dropLast).isEmpty && first.isEmpty) = true
    · rw [if_pos hk] at h
      cases h
      simp only [top, List.length_cons, List.length_nil]; omega
    · rw [if_neg hk] at h
      cases h
      rw [length_paste]; omega

/-- The path and those above it, from the innermost out. -/
def ancestors (p : Path) : List Path :=
  match h : p.parent? with
  | none => [p]
  | some q =>
    have := length_parent?_lt h
    p :: ancestors q
  termination_by p.bytes.length

end Path

/-! ## Entry names -/

/-- The bytes after the last dot of an entry's name.  A name that has no dot,
    or starts with its only one, has no extension. -/
def Name.extension? (n : Name) : Option Bytes :=
  match n.reverse.span (· != Path.dot) with
  | (_, []) => none
  | (_, [_]) => none
  | (ext, _ :: _ :: _) => some ext.reverse

end ClassAtlas
