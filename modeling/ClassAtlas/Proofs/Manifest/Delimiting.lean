import Mathlib.Data.List.DropRight
import ClassAtlas.Proofs.Manifest.Continuing
import ClassAtlas.Proofs.Manifest.Formats
import ClassAtlas.Proofs.Manifest.Printing

/-! # Manifests end by themselves

    What a reader takes from a tape is a list of tokens, and it takes them
    whatever comes after them.  This is so for the readers of texts, choices
    and truth values, and it is kept by those that are put together as lists
    and records; so it is so for manifests.

    Hence a text that is loaded is loaded with its last token and not before:
    cut short by a character of that token or more it is refused, and only
    blanks may follow it (`load_ends`).
-/

namespace ClassAtlas.Manifest

open Tape

variable {α β : Type}

/-! ## Runs that end by themselves -/

/-- The run takes just these tokens, whatever comes after them.  No number is
    among them, since where a number ends depends on what comes after it. -/
structure Takes (run : Tape → Except Fault (α × Tape)) (ts : List PlacedToken) (a : α) : Prop where
  numberFree : NumberFree ts
  run_after : ∀ rest, run (rest.after ts) = .ok (a, rest)

/-- Whatever the run takes from a tape, it takes by itself. -/
def EndsItself (run : Tape → Except Fault (α × Tape)) : Prop :=
  ∀ ⦃t a rest⦄, run t = .ok (a, rest) → ∃ ts, t = rest.after ts ∧ Takes run ts a

def Reader.SelfDelimiting (reader : Reader α) : Prop := EndsItself reader.run

/-- A reader takes one token at least. -/
theorem Reader.exists_takes_cons {reader : Reader α} (h : reader.SelfDelimiting) {t rest : Tape}
    {a : α} (hrun : reader.run t = .ok (a, rest)) :
    ∃ p ts, t = rest.after (p :: ts) ∧ Takes reader.run (p :: ts) a := by
  obtain ⟨ts, rfl, htakes⟩ := h hrun
  cases ts with
  | nil => exact absurd (reader.shorter hrun) (Nat.lt_irrefl _)
  | cons p ts => exact ⟨p, ts, rfl, htakes⟩

theorem numberFree_nil : NumberFree [] := nofun

theorem NumberFree.cons {p : PlacedToken} {ts : List PlacedToken} (hp : p.value.isNumber = false)
    (ht : NumberFree ts) : NumberFree (p :: ts) := List.forall_mem_cons.2 ⟨hp, ht⟩

/-! ## Between values -/

theorem nextItem_eq_close {isFirst : Bool} {t rest : Tape} {stop : Nat}
    (h : nextItem isFirst t = .ok (.close stop rest)) :
    ∃ start, t = .token start stop (.mark .closeList) rest := by
  unfold nextItem at h
  split at h
  · cases h
  · next start stop rest =>
    cases h
    exact ⟨start, rfl⟩
  · split at h
    · cases h
    · split at h
      · split at h <;> cases h
      · cases h

/-- Whether an item of a list may stand at the front of the tape. -/
def Tape.opensItem : Tape → Bool
  | .finish _ => false
  | .token _ _ value _ => value != .mark .closeList
  | _ => true

theorem nextItem_true {t : Tape} (h : t.opensItem) : nextItem true t = .ok (.more t) := by
  unfold nextItem
  split
  · cases h
  · cases h
  · rfl

theorem nextItem_false {t : Tape} (h : t.opensItem) (start stop : Nat) :
    nextItem false (.token start stop (.mark .comma) t) = .ok (.more t) := by
  simp only [nextItem, Bool.false_eq_true, if_false]
  split
  · cases h
  · cases h
  · rfl

/-- Before an item nothing or a comma is taken; of the item itself only that it
    does not end the list is seen. -/
theorem nextItem_eq_more {isFirst : Bool} {t item : Tape}
    (h : nextItem isFirst t = .ok (.more item)) :
    item.opensItem ∧ ∃ front, NumberFree front ∧ t = item.after front
      ∧ ∀ item' : Tape, item'.opensItem →
        nextItem isFirst (item'.after front) = .ok (.more item') := by
  have hopens : ∀ t : Tape, (∀ offset, t ≠ .finish offset)
      → (∀ start stop rest, t ≠ .token start stop (.mark .closeList) rest) → t.opensItem := by
    intro t hfinish hclose
    unfold opensItem
    split
    · exact absurd rfl (hfinish _)
    · refine bne_iff_ne.2 ?_
      rintro rfl
      exact hclose _ _ _ rfl
    · rfl
  unfold nextItem at h
  split at h
  · cases h
  · cases h
  · next hfinish hclose =>
    split at h
    · next hfirst =>
      cases h
      refine ⟨hopens _ hfinish hclose, [], numberFree_nil, rfl, ?_⟩
      intro item' hitem'
      rw [hfirst]
      exact nextItem_true hitem'
    · next hfirst =>
      have hfirst : isFirst = false := by simpa using hfirst
      split at h
      · next start stop _ =>
        split at h
        · cases h
        · cases h
        · next hclose hfinish =>
          cases h
          refine ⟨hopens _ hfinish hclose, [⟨start, stop, .mark .comma⟩], numberFree_nil.cons rfl,
            rfl, ?_⟩
          intro item' hitem'
          rw [hfirst]
          exact nextItem_false hitem' start stop
      · cases h

theorem takeKey_eq_more {t rest : Tape} {name : String}
    (h : takeKey t = .ok (.more (name, rest))) : ∃ start stop, t = .token start stop (.text name) rest := by
  unfold takeKey at h
  split at h <;> cases h
  exact ⟨_, _, rfl⟩

theorem nextKey_eq_close {isFirst : Bool} {t rest : Tape} {stop : Nat}
    (h : nextKey isFirst t = .ok (.close stop rest)) :
    ∃ start, t = .token start stop (.mark .closeObject) rest := by
  unfold nextKey at h
  split at h
  · cases h
  · next start stop rest =>
    cases h
    exact ⟨start, rfl⟩
  · split at h
    · exact absurd h takeKey_ne_close
    · split at h
      · split at h
        · cases h
        · cases h
        · exact absurd h takeKey_ne_close
      · cases h

/-- A key is taken with the comma before it. -/
theorem nextKey_eq_more {isFirst : Bool} {t rest : Tape} {name : String}
    (h : nextKey isFirst t = .ok (.more (name, rest))) :
    ∃ front, NumberFree front ∧ t = rest.after front
      ∧ ∀ last : Tape, nextKey isFirst (last.after front) = .ok (.more (name, last)) := by
  unfold nextKey at h
  split at h
  · cases h
  · cases h
  · split at h
    · next hfirst =>
      obtain ⟨start, stop, rfl⟩ := takeKey_eq_more h
      refine ⟨[⟨start, stop, .text name⟩], numberFree_nil.cons rfl, rfl, ?_⟩
      intro last
      rw [hfirst]
      rfl
    · next hfirst =>
      have hfirst : isFirst = false := by simpa using hfirst
      split at h
      · next _ start stop _ _ _ =>
        split at h
        · cases h
        · cases h
        · obtain ⟨start', stop', rfl⟩ := takeKey_eq_more h
          refine ⟨[⟨start, stop, .mark .comma⟩, ⟨start', stop', .text name⟩],
            (numberFree_nil.cons rfl).cons rfl, rfl, ?_⟩
          intro last
          rw [hfirst]
          rfl
      · cases h

theorem skipColon_eq_ok {t rest : Tape} (h : skipColon t = .ok rest) :
    ∃ start stop, t = .token start stop (.mark .colon) rest := by
  unfold skipColon at h
  split at h <;> cases h
  exact ⟨_, _, rfl⟩

/-! ## Single values -/

namespace Reader

theorem text_selfDelimiting (expected : String) : (text expected).SelfDelimiting := by
  intro t a rest h
  have htext : textFrom expected t = .ok (a, rest) := h
  unfold textFrom at htext
  split at htext <;> cases htext
  exact ⟨[⟨_, _, .text _⟩], rfl, numberFree_nil.cons rfl, fun _ => rfl⟩

theorem bool_selfDelimiting : bool.SelfDelimiting := by
  intro t a rest h
  have hbool : boolFrom t = .ok (a, rest) := h
  unfold boolFrom at hbool
  split at hbool <;> cases hbool
  exact ⟨[⟨_, _, .bool _⟩], rfl, numberFree_nil.cons rfl, fun _ => rfl⟩

theorem closeVariant_eq_ok {t rest : Tape} (h : closeVariant t = .ok rest) :
    ∃ ts, NumberFree ts ∧ t = rest.after ts ∧ ∀ last : Tape, closeVariant (last.after ts) = .ok last := by
  unfold closeVariant at h
  split at h
  · split at h <;> cases h
    refine ⟨[⟨_, _, .mark .colon⟩, ⟨_, _, .null⟩, ⟨_, _, .mark .closeObject⟩], ?_, rfl, fun _ => rfl⟩
    exact ((numberFree_nil.cons rfl).cons rfl).cons rfl
  · cases h
  · cases h
  · cases h

theorem choice_selfDelimiting (options : List (String × α)) :
    (choice options).SelfDelimiting := by
  intro t a rest h
  have hchoice : choiceFrom options t = .ok (a, rest) := h
  unfold choiceFrom at hchoice
  split at hchoice
  · next start stop name rest =>
    split at hchoice <;> cases hchoice
    next hname =>
    refine ⟨[⟨start, stop, .text name⟩], rfl, numberFree_nil.cons rfl, ?_⟩
    intro last
    show choiceFrom options (.token start stop (.text name) last) = _
    simp only [choiceFrom, hname]
  · next start stop start' stop' name rest =>
    split at hchoice
    · next hname =>
      split at hchoice <;> cases hchoice
      next hclose =>
      obtain ⟨ts, hfree, rfl, hlast⟩ := closeVariant_eq_ok hclose
      refine ⟨⟨start, stop, .mark .openObject⟩ :: ⟨start', stop', .text name⟩ :: ts, rfl,
        (hfree.cons rfl).cons rfl, ?_⟩
      intro last
      show choiceFrom options (.token start stop (.mark .openObject)
        (.token start' stop' (.text name) (last.after ts))) = _
      simp only [choiceFrom, hname, hlast]
    · cases hchoice
  · cases hchoice
  · cases hchoice
  · cases hchoice
  · cases hchoice

theorem map_selfDelimiting {reader : Reader α} (h : reader.SelfDelimiting) (f : α → β) :
    (reader.map f).SelfDelimiting := by
  intro t b rest hrun
  obtain ⟨⟨a, rest⟩, ha, heq⟩ := map_eq_ok hrun
  cases heq
  obtain ⟨ts, rfl, htakes⟩ := h ha
  refine ⟨ts, rfl, htakes.numberFree, ?_⟩
  intro last
  show (reader.run (last.after ts)).map _ = _
  rw [htakes.run_after]
  rfl

/-! ## Lists -/

theorem items_endsItself {item : Reader α} (h : item.SelfDelimiting) (isFirst : Bool) :
    EndsItself (items item isFirst) := by
  intro t as rest hitems
  fun_induction items item isFirst t generalizing as rest with
  | case1 => cases hitems
  | case2 isFirst t stop rest hn =>
    cases hitems
    obtain ⟨start, rfl⟩ := nextItem_eq_close hn
    refine ⟨[⟨start, stop, .mark .closeList⟩], rfl, numberFree_nil.cons rfl, ?_⟩
    intro last
    exact items_close nextItem_close
  | case3 => cases hitems
  | case4 => cases hitems
  | case5 isFirst t start hn a mid hi h1 h2 as rest hr ih =>
    cases hitems
    obtain ⟨p, ts, rfl, hitem⟩ := exists_takes_cons h hi
    obtain ⟨hopens, front, hfront, rfl, hnext⟩ := nextItem_eq_more hn
    obtain ⟨us, rfl, hrest⟩ := ih hr
    refine ⟨front ++ ((p :: ts) ++ us), ?_, ?_⟩
    · rw [after_append, after_append]
    · refine ⟨hfront.append (hitem.numberFree.append hrest.numberFree), ?_⟩
      intro last
      have hstart := hnext ((last.after us).after (p :: ts)) hopens
      rw [after_append, after_append, items_more hstart, hitem.run_after]
      simp only [Except.bind, hrest.run_after, Except.map]

theorem list_selfDelimiting {item : Reader α} (h : item.SelfDelimiting) :
    item.list.SelfDelimiting := by
  intro t as rest hrun
  have hlist : listFrom item t = .ok (as, rest) := hrun
  unfold listFrom at hlist
  split at hlist
  · next start stop u =>
    obtain ⟨ts, rfl, hitems⟩ := items_endsItself h true hlist
    exact ⟨⟨start, stop, .mark .openList⟩ :: ts, rfl, hitems.numberFree.cons rfl, hitems.run_after⟩
  · cases hlist

end Reader

/-! ## Records -/

namespace RecordFormat

variable {δ : Type} {format : RecordFormat δ α}

theorem readFields_endsItself (h : ∀ field ∈ format.fields, field.reader.SelfDelimiting)
    (isFirst : Bool) (draft : δ) : EndsItself (format.readFields isFirst draft) := by
  intro t a rest hfields
  fun_induction readFields format isFirst draft t with
  | case1 => cases hfields
  | case2 => cases hfields
  | case3 isFirst draft t stop rest hk a hfinish =>
    cases hfields
    obtain ⟨start, rfl⟩ := nextKey_eq_close hk
    refine ⟨[⟨start, stop, .mark .closeObject⟩], rfl, numberFree_nil.cons rfl, ?_⟩
    intro last
    have hclose : nextKey isFirst (.token start stop (.mark .closeObject) last)
        = .ok (.close stop last) := rfl
    rw [after_cons, after_nil, readFields_close hclose, hfinish]
    rfl
  | case4 => cases hfields
  | case5 => cases hfields
  | case6 => cases hfields
  | case7 => cases hfields
  | case8 isFirst draft t name afterName hk field hf hs value hc put mid hv h1 h2 h3 ih =>
    obtain ⟨front, hfront, rfl, hkey⟩ := nextKey_eq_more hk
    obtain ⟨start, stop, rfl⟩ := skipColon_eq_ok hc
    obtain ⟨ts, rfl, hvalue⟩ := h field (List.mem_of_find?_eq_some hf) hv
    obtain ⟨us, rfl, hrest⟩ := ih hfields
    refine ⟨front ++ (⟨start, stop, .mark .colon⟩ :: (ts ++ us)), ?_, ?_⟩
    · rw [after_append, after_cons, after_append]
    · refine ⟨hfront.append ((hvalue.numberFree.append hrest.numberFree).cons rfl), ?_⟩
      intro last
      rw [after_append, after_cons, after_append, readFields_key (hkey _), hf]
      simp only [if_neg hs, hvalue.run_after, Except.bind]
      exact hrest.run_after last

theorem closeItems_eq_ok {t rest : Tape} {stop : Nat} (h : closeItems t = .ok (stop, rest)) :
    ∃ start, t = .token start stop (.mark .closeList) rest := by
  unfold closeItems at h
  split at h <;> cases h
  exact ⟨_, rfl⟩

theorem readItems_endsItself {fields : List (Field δ)}
    (h : ∀ field ∈ fields, field.reader.SelfDelimiting) (count : Nat) (draft : δ) :
    EndsItself (format.readItems fields count draft) := by
  intro t a rest hitems
  induction fields generalizing count draft t with
  | nil =>
    simp only [readItems] at hitems
    split at hitems
    · cases hitems
    · next stop rest hclose =>
      split at hitems <;> cases hitems
      next hfinish =>
      obtain ⟨start, rfl⟩ := closeItems_eq_ok hclose
      refine ⟨[⟨start, stop, .mark .closeList⟩], rfl, numberFree_nil.cons rfl, ?_⟩
      intro last
      have hlast : closeItems (.token start stop (.mark .closeList) last) = .ok (stop, last) := rfl
      simp only [after_cons, after_nil, readItems, hlast, hfinish]
  | cons field fields ih =>
    obtain ⟨hfield, hfields⟩ := List.forall_mem_cons.1 h
    simp only [readItems] at hitems
    split at hitems
    · cases hitems
    · next stop rest' hn =>
      split at hitems
      · cases hitems
      · next hrequired =>
        -- the mark that ends the list is seen here and taken after the last field
        obtain ⟨ts, hts, htakes⟩ := ih hfields _ _ hitems
        refine ⟨ts, hts, htakes.numberFree, ?_⟩
        obtain ⟨start, rfl⟩ := nextItem_eq_close hn
        cases ts with
        | nil => exact absurd (length_readItems hitems) (by rw [hts]; exact Nat.lt_irrefl _)
        | cons p ts =>
          obtain ⟨_, _, _⟩ := p
          injection hts with hstart hstop hvalue _
          intro last
          have hclose : nextItem (count == 0) (.token start stop (.mark .closeList) (last.after ts))
              = .ok (.close stop (last.after ts)) := nextItem_close
          have hlast := htakes.run_after last
          rw [after_cons, ← hstart, ← hstop, ← hvalue] at hlast ⊢
          simp only [readItems, hclose, if_neg hrequired]
          exact hlast
    · next value hn =>
      split at hitems
      · cases hitems
      · next put mid hv =>
        obtain ⟨p, ts, rfl, hvalue⟩ := Reader.exists_takes_cons hfield hv
        obtain ⟨hopens, front, hfront, rfl, hnext⟩ := nextItem_eq_more hn
        obtain ⟨us, rfl, hrest⟩ := ih hfields _ _ hitems
        refine ⟨front ++ ((p :: ts) ++ us), ?_, ?_⟩
        · rw [after_append, after_append]
        · refine ⟨hfront.append (hvalue.numberFree.append hrest.numberFree), ?_⟩
          intro last
          have hstart := hnext ((last.after us).after (p :: ts)) hopens
          rw [after_append, after_append, readItems_more hstart, hvalue.run_after]
          exact hrest.run_after last

theorem reader_selfDelimiting (h : ∀ field ∈ format.fields, field.reader.SelfDelimiting) :
    format.reader.SelfDelimiting := by
  intro t a rest hrun
  have hrecord : format.recordFrom t = .ok (a, rest) := hrun
  unfold recordFrom at hrecord
  split at hrecord
  · next start stop u =>
    obtain ⟨ts, rfl, htakes⟩ := readFields_endsItself h true format.blank hrecord
    exact ⟨⟨start, stop, .mark .openObject⟩ :: ts, rfl, htakes.numberFree.cons rfl, htakes.run_after⟩
  · next start stop u =>
    obtain ⟨ts, rfl, htakes⟩ := readItems_endsItself h 0 format.blank hrecord
    exact ⟨⟨start, stop, .mark .openList⟩ :: ts, rfl, htakes.numberFree.cons rfl, htakes.run_after⟩
  · cases hrecord

end RecordFormat

/-! ## Readers that are put together -/

/-- The reader is one of texts, truth values and choices, or put together from
    such readers. -/
inductive Reader.Composed : {α : Type} → Reader α → Prop where
  | text (expected : String) : (Reader.text expected).Composed
  | bool : Reader.bool.Composed
  | choice {α : Type} (options : List (String × α)) : (Reader.choice options).Composed
  | map {α β : Type} {reader : Reader α} (f : α → β) (h : reader.Composed) :
      (reader.map f).Composed
  | list {α : Type} {item : Reader α} (h : item.Composed) : item.list.Composed
  | record {α δ : Type} {format : RecordFormat δ α}
      (h : ∀ field ∈ format.fields, field.reader.Composed) : format.reader.Composed

theorem Reader.Composed.selfDelimiting {reader : Reader α} (h : reader.Composed) :
    reader.SelfDelimiting := by
  induction h with
  | text expected => exact text_selfDelimiting expected
  | bool => exact bool_selfDelimiting
  | choice options => exact choice_selfDelimiting options
  | map f _ ih => exact map_selfDelimiting ih f
  | list _ ih => exact list_selfDelimiting ih
  | record _ ih => exact RecordFormat.reader_selfDelimiting ih

theorem scopeFormat_composed : scopeFormat.reader.Composed := by
  apply Reader.Composed.record
  simp only [scopeFormat, List.forall_mem_cons]
  exact ⟨.map _ (.choice _), .map _ (.text _), List.forall_mem_nil _⟩

theorem memberFormat_composed : memberFormat.reader.Composed := by
  apply Reader.Composed.record
  simp only [memberFormat, List.forall_mem_cons]
  exact ⟨.map _ (.choice _), .map _ (.text _), .map _ .bool, .map _ (.text _), List.forall_mem_nil _⟩

theorem declarationFormat_composed : declarationFormat.reader.Composed := by
  apply Reader.Composed.record
  simp only [declarationFormat, List.forall_mem_cons]
  exact ⟨.map _ (.choice _), .map _ (.text _), .map _ scopeFormat_composed.list,
    .map _ memberFormat_composed.list, .map _ (.list (.text _)), List.forall_mem_nil _⟩

theorem format_composed : format.reader.Composed := by
  apply Reader.Composed.record
  simp only [format, List.forall_mem_cons]
  exact ⟨.map _ (.text _), .map _ declarationFormat_composed.list, List.forall_mem_nil _⟩

/-! ## Whole texts -/

theorem read_eq_ok {text : String} {c : Contents} :
    read text = .ok c ↔ ∃ stop, format.reader.run (.ofText text) = .ok (c, .finish stop) := by
  unfold read
  constructor
  · intro h
    split at h
    · cases h
    · next hrun =>
      cases h
      exact ⟨_, hrun⟩
    · cases h
  · rintro ⟨stop, hrun⟩
    rw [hrun]

/-- The tokens of a text that is read are just those that its manifest takes. -/
theorem exists_takes_of_read {text : String} {c : Contents} (h : read text = .ok c) :
    ∃ ts stop, Tape.ofText text = (finish stop).after ts ∧ Takes format.reader.run ts c := by
  obtain ⟨stop, hrun⟩ := read_eq_ok.1 h
  obtain ⟨ts, htape, htakes⟩ := format_composed.selfDelimiting hrun
  exact ⟨ts, stop, htape, htakes⟩

/-- Blanks may follow a manifest, and nothing else. -/
theorem read_append {text : String} {c : Contents} (h : read text = .ok c) (more : String)
    (c' : Contents) : read (text ++ more) = .ok c' ↔ IsGap more.toList ∧ c' = c := by
  obtain ⟨ts, stop, htape, htakes⟩ := exists_takes_of_read h
  have hlonger : Tape.ofText (text ++ more) = (ofChars stop more.toList).after ts := by
    rw [ofText, String.toList_append]
    exact ofChars_more htape htakes.numberFree more.toList
  rw [read_eq_ok, hlonger, htakes.run_after]
  constructor
  · rintro ⟨last, hlast⟩
    injection hlast with hpair
    injection hpair with hc htail
    exact ⟨isGap_of_ofChars_eq_finish htail, hc.symm⟩
  · rintro ⟨hgap, rfl⟩
    refine ⟨stop + more.toList.length, ?_⟩
    have htail := ofChars_gap hgap stop []
    rw [List.append_nil, ofChars] at htail
    rw [htail]

/-- The text is refused in the name of its path. -/
def Refuses (path : Path) (text : String) : Prop :=
  ∃ message, load path text = .error (.declarationSource path message)

theorem refuses_of_read_ne {text : String} (h : ∀ c, read text ≠ .ok c) (path : Path) :
    Refuses path text := by
  cases hread : read text with
  | ok c => exact absurd hread (h c)
  | error fault => exact ⟨fault.message text, load_of_read_eq_error hread path⟩

theorem exists_read_of_load {path : Path} {text : String} {es : List Entity}
    (h : load path text = .ok es) : ∃ c, read text = .ok c := by
  cases hread : read text with
  | ok c => exact ⟨c, rfl⟩
  | error fault =>
    rw [load_of_read_eq_error hread path] at h
    cases h

/-- The characters of a text, without the blanks at its end. -/
def solid (text : String) : List Char := text.toList.rdropWhile isBlank

theorem solid_append_gap (text : String) {gap : String} (h : IsGap gap.toList) :
    solid (text ++ gap) = solid text := by
  have hblank : ∀ c ∈ gap.toList.reverse, isBlank c := by
    intro c hc
    exact isBlank_iff.2 (h c (List.mem_reverse.1 hc))
  rw [solid, solid, List.rdropWhile, List.rdropWhile, String.toList_append, List.reverse_append,
    List.dropWhile_append_of_pos hblank]

/-- A text that is loaded is refused when it is cut short of any of its
    characters but the blanks at its end.  When it goes on, it is refused too,
    unless it goes on with blanks; then it says what it said before. -/
theorem load_ends {path : Path} {text : String} {es : List Entity} (h : load path text = .ok es) :
    (∀ front : String, front.toList <+: solid text → front.toList ≠ solid text → Refuses path front)
      ∧ ∀ more : String, (IsGap more.toList → load path (text ++ more) = .ok es)
          ∧ (¬ IsGap more.toList → Refuses path (text ++ more)) := by
  obtain ⟨c, hc⟩ := exists_read_of_load h
  refine ⟨?_, fun more => ⟨?_, ?_⟩⟩
  · intro front hfront hne
    apply refuses_of_read_ne
    intro c' hc'
    -- the rest of the text follows a manifest, so it is blank
    obtain ⟨cut, hcut⟩ := hfront.trans (List.rdropWhile_prefix isBlank _)
    have htext : front ++ String.ofList cut = text := by
      apply String.toList_injective
      rw [String.toList_append, String.toList_ofList, hcut]
    rw [← htext, read_append hc'] at hc
    have hsolid : solid text = solid front := by
      rw [← htext]
      exact solid_append_gap front hc.1
    have hback : solid text <+: front.toList := by
      rw [hsolid]
      exact List.rdropWhile_prefix isBlank _
    exact hne (hfront.eq_of_length_le hback.length_le)
  · intro hgap
    have hmore := (read_append hc more c).2 ⟨hgap, rfl⟩
    rw [load_of_read hmore, ← load_of_read hc, h]
  · intro hgap
    apply refuses_of_read_ne
    intro c' hc'
    exact hgap ((read_append hc more c').1 hc').1

/-- A manifest of one class. -/
def classManifest : Value :=
  .object
    [("source", .text "a.cs"), ("declarations", .list [.list [.text "class", .text "A"]])]

theorem load_ends_classManifest :
    load (.ofString "/a.decl.json") (Style.numeric.print classManifest)
        = .ok [{ kind := .classType, name := "A", source := .ofString "/a.cs" }]
      ∧ Refuses (.ofString "/a.decl.json")
          (String.ofList (solid (Style.numeric.print classManifest)).dropLast)
      ∧ load (.ofString "/a.decl.json") (Style.numeric.print classManifest ++ "\n")
          = .ok [{ kind := .classType, name := "A", source := .ofString "/a.cs" }]
      ∧ Refuses (.ofString "/a.decl.json") (Style.numeric.print classManifest ++ "]") := by
  have hdecode : decode classManifest = some ⟨"a.cs", [{ kind := .classType, name := "A" }]⟩ := rfl
  have hload : load (.ofString "/a.decl.json") (Style.numeric.print classManifest)
      = .ok [{ kind := .classType, name := "A", source := .ofString "/a.cs" }] :=
    (load_of_decode (Style.numeric.spelledAs_print _) hdecode _).trans
      (congrArg Except.ok (by decide))
  have hsolid : solid (Style.numeric.print classManifest) ≠ [] := by
    intro hnil
    have hopen : '\x7b' ∈ (Style.numeric.print classManifest).toList := by
      rw [Style.print, String.toList_ofList]
      exact List.mem_append_right _ List.mem_cons_self
    exact absurd (List.rdropWhile_eq_nil_iff.1 hnil _ hopen) (by decide)
  obtain ⟨hfront, hmore⟩ := load_ends hload
  refine ⟨hload, hfront _ ?_ ?_, (hmore "\n").1 ?_, (hmore "]").2 ?_⟩
  · rw [String.toList_ofList]
    exact List.dropLast_prefix _
  · rw [String.toList_ofList]
    intro heq
    have hlength := congrArg List.length heq
    rw [List.length_dropLast] at hlength
    have hpos := List.length_pos_of_ne_nil hsolid
    omega
  · simp [IsGap]
  · simp [IsGap]

end ClassAtlas.Manifest
