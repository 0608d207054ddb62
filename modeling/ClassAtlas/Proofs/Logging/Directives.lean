import Mathlib.Data.Bool.AllAny
import Mathlib.Tactic.SplitIfs
import ClassAtlas.Logging.Filter
import ClassAtlas.Proofs.Text.Utf8

/-! # Cutting directives

    The parts of a directive are cut out of its text at the places where its
    signs stand, counted from the first character that is no blank.  Where no
    blank stands in front of a directive these places lie between characters, so
    every filter of such directives can be read (`LogFilter.isSome_ofText?`).

    One character keeps this (`Directive.step_of_begins`): what is being read
    begins after characters that have been seen.
-/

namespace ClassAtlas

/-! ## Cuts between characters -/

namespace Utf8

theorem cutAt?_size_append (front rest : List Char) :
    cutAt? (size front) (front ++ rest) = some (front, rest) := by
  induction front with
  | nil => simp [size, cutAt?]
  | cons c front ih =>
    obtain ⟨n, hn⟩ := Nat.exists_eq_add_of_lt c.utf8Size_pos
    have hsize : size (c :: front) = n + size front + 1 := by
      have hcons : size (c :: front) = c.utf8Size + size front := rfl
      omega
    have hfits : c.utf8Size ≤ n + size front + 1 := by omega
    have hrest : n + size front + 1 - c.utf8Size = size front := by omega
    rw [List.cons_append, hsize, cutAt?, if_pos hfits, hrest, ih]
    rfl

/-- A part that other characters stand around is cut out. -/
theorem slice?_append (front middle rest : List Char) :
    slice? (size front) (size (front ++ middle)) (front ++ middle ++ rest) = some middle := by
  simp only [slice?, cutAt?_size_append, Option.bind_eq_bind, Option.bind_some]
  rfl

end Utf8

/-! ## Reading a directive -/

namespace Directive

/-- The place lies before or after characters that have been seen. -/
def IsPlace (seen : List Char) (start : Nat) : Prop :=
  ∃ front middle, seen = front ++ middle ∧ start = Utf8.size front

theorem isPlace_zero (seen : List Char) : IsPlace seen 0 := ⟨[], seen, rfl, rfl⟩

theorem isPlace_size (seen : List Char) : IsPlace seen (Utf8.size seen) :=
  ⟨seen, [], (List.append_nil seen).symm, rfl⟩

theorem IsPlace.append {seen : List Char} {start : Nat} (h : IsPlace seen start)
    (more : List Char) : IsPlace (seen ++ more) start := by
  obtain ⟨front, middle, rfl, rfl⟩ := h
  exact ⟨front, middle ++ more, List.append_assoc _ _ _, rfl⟩

/-- From such a place to the end of what has been seen, a part can be cut. -/
theorem part_of_isPlace {seen : List Char} {start : Nat} (h : IsPlace seen start)
    (rest : List Char) : ∃ cs, part (seen ++ rest) start (Utf8.size seen) = .ok cs := by
  obtain ⟨front, middle, rfl, rfl⟩ := h
  exact ⟨middle, by rw [part, Utf8.slice?_append]⟩

/-- What is being read begins between characters that have been seen. -/
def Stage.Begins (seen : List Char) : Stage → Prop
  | .span start | .field start | .level start => IsPlace seen start
  | .opening | .word | .afterField | .afterSpan => True

/-- The sign of one byte that ends a part begins the next one behind it. -/
theorem isPlace_succ (seen : List Char) {c : Char} (hc : c.utf8Size = 1) :
    IsPlace (seen ++ [c]) (Utf8.size seen + 1) := by
  have hsize : Utf8.size seen + 1 = Utf8.size (seen ++ [c]) := by
    rw [Utf8.size_append, Utf8.size_singleton, hc]
  rw [hsize]
  exact isPlace_size _

/-- A character never cuts another one. -/
theorem step_of_begins {seen : List Char} {stage : Stage} (h : stage.Begins seen)
    (d : Directive) (c : Char) (rest : List Char) :
    step (seen ++ rest) d stage (Utf8.size seen) c = .error .malformed
      ∨ ∃ d' stage', step (seen ++ rest) d stage (Utf8.size seen) c = .ok (d', stage')
        ∧ stage'.Begins (seen ++ [c]) := by
  have hsigns : ∀ sign ∈ ['=', '[', ']', '\x7b'], sign.utf8Size = 1 :=
    List.all_iff_forall_prop.1 (by decide)
  cases stage with
  | opening =>
    simp only [step]
    split_ifs with hspan hword
    · exact .inr ⟨_, _, rfl, isPlace_succ seen (hsigns c (by simp [hspan]))⟩
    · exact .inr ⟨_, _, rfl, trivial⟩
    · exact .inl rfl
  | word =>
    obtain ⟨target, htarget⟩ := part_of_isPlace (isPlace_zero seen) rest
    simp only [step, htarget]
    split_ifs with hsign hlevel
    · exact .inr ⟨_, _, rfl, isPlace_succ seen (hsigns c (by simp [hlevel]))⟩
    · exact .inr ⟨_, _, rfl, isPlace_succ seen (hsigns c (by simp [hsign.resolve_left hlevel]))⟩
    · exact .inr ⟨_, _, rfl, trivial⟩
  | span start =>
    obtain ⟨name, hname⟩ := part_of_isPlace h rest
    simp only [step, hname]
    split_ifs with hclose hfield
    · exact .inr ⟨_, _, rfl, trivial⟩
    · exact .inr ⟨_, _, rfl, isPlace_succ seen (hsigns c (by simp [hfield]))⟩
    · exact .inr ⟨_, _, rfl, h.append [c]⟩
  | field start =>
    obtain ⟨written, hwritten⟩ := part_of_isPlace h rest
    simp only [step, hwritten]
    split_ifs with hclose
    · simp only [bind, Except.bind]
      generalize (if written.isEmpty then none else FieldSelector.read? written) = field?
      cases field? with
      | none => exact .inl rfl
      | some field => exact .inr ⟨_, _, rfl, trivial⟩
    · exact .inr ⟨_, _, rfl, h.append [c]⟩
  | afterField =>
    simp only [step]
    split_ifs
    · exact .inr ⟨_, _, rfl, trivial⟩
    · exact .inl rfl
  | afterSpan =>
    simp only [step]
    split_ifs with hlevel
    · exact .inr ⟨_, _, rfl, isPlace_succ seen (hsigns c (by simp [hlevel]))⟩
    · exact .inl rfl
  | level start => exact .inr ⟨_, _, rfl, h.append [c]⟩

theorem finish_ne_cutCharacter {seen : List Char} {stage : Stage} (h : stage.Begins seen)
    (d : Directive) (rest : List Char) :
    finish (seen ++ rest) d stage ≠ .error .cutCharacter := by
  cases stage with
  | word =>
    simp only [finish]
    split <;> simp
  | level start =>
    obtain ⟨written, hwritten⟩ := part_of_isPlace (h.append rest) []
    rw [List.append_nil] at hwritten
    simp only [finish, hwritten, bind, Except.bind]
    split
    · nofun
    · nofun
  | opening | span | field | afterField | afterSpan => simp [finish]

theorem readFrom_ne_cutCharacter {seen : List Char} {stage : Stage} (h : stage.Begins seen)
    (d : Directive) (cs rest : List Char) :
    readFrom (seen ++ (cs ++ rest)) d stage (Utf8.size seen) cs ≠ .error .cutCharacter := by
  induction cs generalizing seen stage d with
  | nil => exact finish_ne_cutCharacter h d rest
  | cons c cs ih =>
    rw [readFrom]
    rcases step_of_begins h d c (c :: cs ++ rest) with hstep | ⟨d', stage', hstep, hbegins⟩
    · rw [hstep]
      simp
    · have hnext := ih hbegins d'
      rw [hstep]
      simpa [Utf8.size_singleton] using hnext

/-- No blank stands in front. -/
def Unindented (text : List Char) : Prop := ∀ c ∈ text.head?, ¬ CharProperty.isBlank c

instance : (text : List Char) → Decidable (Unindented text)
  | [] => .isTrue nofun
  | c :: _ => decidable_of_iff (¬ CharProperty.isBlank c) (by simp [Unindented])

/-- Only blanks at the end are trimmed. -/
theorem Unindented.exists_eq_trim_append {text : List Char} (h : Unindented text) :
    ∃ blanks, text = trim text ++ blanks := by
  have hfront : text.dropWhile CharProperty.isBlank = text := by
    cases text with
    | nil => rfl
    | cons c cs => exact List.dropWhile_cons_of_neg (h c rfl)
  refine ⟨(text.reverse.takeWhile CharProperty.isBlank).reverse, ?_⟩
  rw [trim, hfront, ← List.reverse_append, List.takeWhile_append_dropWhile, List.reverse_reverse]

theorem Unindented.read_ne_cutCharacter {text : List Char} (h : Unindented text) :
    read text ≠ .error .cutCharacter := by
  obtain ⟨blanks, htext⟩ := h.exists_eq_trim_append
  have hbegins : Stage.opening.Begins [] := trivial
  have hread := readFrom_ne_cutCharacter hbegins {} (trim text) blanks
  rw [List.nil_append, ← htext] at hread
  exact hread

end Directive

/-! ## Reading a filter -/

theorem mapM_ne_error {α β ε : Type} {f : α → Except ε β} {e : ε} {xs : List α}
    (h : ∀ x ∈ xs, f x ≠ .error e) : xs.mapM f ≠ .error e := by
  induction xs with
  | nil => nofun
  | cons x xs ih =>
    obtain ⟨hx, hxs⟩ := List.forall_mem_cons.1 h
    have hrest := ih hxs
    rw [List.mapM_cons]
    -- the first fault is that of the head, or else that of the tail
    cases hhead : f x with
    | error e' =>
      rw [hhead] at hx
      simpa [bind, Except.bind] using hx
    | ok y =>
      cases htail : xs.mapM f with
      | error e' =>
        rw [htail] at hrest
        simpa [bind, Except.bind] using hrest
      | ok ys => simp [bind, Except.bind, pure, Except.pure]

namespace LogFilter

/-- No blank stands in front of a directive. -/
def Unindented (text : String) : Prop :=
  ∀ directive ∈ text.toList.splitOn ',', Directive.Unindented directive

instance (text : String) : Decidable (Unindented text) :=
  inferInstanceAs
    (Decidable (∀ directive ∈ text.toList.splitOn ',', Directive.Unindented directive))

/-- Filters of such directives are read, as what they write or as level `info`. -/
theorem Unindented.isSome_ofText? {text : String} (h : Unindented text) :
    (ofText? text).isSome := by
  have hparts : ∀ directive ∈ (text.toList.splitOn ',').filter (! ·.isEmpty),
      Directive.read directive ≠ .error .cutCharacter := by
    intro directive hdirective
    exact (h directive (List.mem_filter.1 hdirective).1).read_ne_cutCharacter
  have hread : read text ≠ .error .cutCharacter := by
    have hall := mapM_ne_error hparts
    unfold read
    cases hdirectives : ((text.toList.splitOn ',').filter (! ·.isEmpty)).mapM Directive.read with
    | error fault =>
      rw [hdirectives] at hall
      simpa [bind, Except.bind, hdirectives] using hall
    | ok directives => simp [bind, Except.bind, hdirectives, pure, Except.pure]
  unfold ofText?
  split
  · rfl
  · rfl
  · next hcut => exact absurd hcut hread

end LogFilter

end ClassAtlas
