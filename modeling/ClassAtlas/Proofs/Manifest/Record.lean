import Mathlib.Data.List.Forall2
import Mathlib.Data.List.Nodup
import ClassAtlas.Proofs.Manifest.Decoding

/-! # What a record's format accepts

    The values that are decoded by a format whose drafts know what has been put
    into them.  An object is decoded if no field is there twice, every field is
    one of the format's and holds what it should, and those that are required
    are there.  Decoding goes field by field, so both directions follow from one
    law about the first field.
-/

namespace ClassAtlas.Manifest

namespace RecordFormat

variable {δ α : Type} {format : RecordFormat δ α} {decoders : String → Value → Option (δ → δ)}

/-! ## Lawful formats -/

variable (format decoders) in
/-- Putting a field into a draft makes it seen and no other, and only drafts
    that have seen the required fields become records. -/
structure Lawful : Prop where
  nodup : format.names.Nodup
  blank : ∀ field ∈ format.fields, field.isSeen format.blank = false
  put : ∀ {name v put}, decoders name v = some put → ∀ field ∈ format.fields, ∀ draft,
    field.isSeen (put draft) = (field.name == name || field.isSeen draft)
  build : ∀ {draft a}, format.build? draft = some a → ∀ field ∈ format.fields,
    field.isRequired → field.isSeen draft

variable (format) in
/-- The field of the given name is in the draft. -/
def Seen (draft : δ) (name : String) : Prop :=
  ∃ field ∈ format.fields, field.name = name ∧ field.isSeen draft

namespace Lawful

theorem eq_of_name_eq (h : format.Lawful decoders) {f g : Field δ} (hf : f ∈ format.fields)
    (hg : g ∈ format.fields) (heq : f.name = g.name) : f = g :=
  List.inj_on_of_nodup_map h.nodup hf hg heq

theorem not_seen_blank (h : format.Lawful decoders) (name : String) :
    ¬ format.Seen format.blank name := by
  rintro ⟨field, hf, _, hseen⟩
  rw [h.blank field hf] at hseen
  cases hseen

theorem seen_put (h : format.Lawful decoders) {name : String} {v : Value} {put : δ → δ}
    (hput : decoders name v = some put) (draft : δ) (other : String) :
    format.Seen (put draft) other
      ↔ (other = name ∧ other ∈ format.names) ∨ format.Seen draft other := by
  constructor
  · rintro ⟨field, hf, rfl, hseen⟩
    rw [h.put hput field hf draft, Bool.or_eq_true, beq_iff_eq] at hseen
    rcases hseen with hname | hseen
    · exact .inl ⟨hname, List.mem_map_of_mem hf⟩
    · exact .inr ⟨field, hf, rfl, hseen⟩
  · rintro (⟨rfl, hmem⟩ | ⟨field, hf, rfl, hseen⟩)
    · obtain ⟨field, hf, rfl⟩ := List.mem_map.1 hmem
      refine ⟨field, hf, rfl, ?_⟩
      rw [h.put hput field hf draft, beq_self_eq_true, Bool.true_or]
    · refine ⟨field, hf, rfl, ?_⟩
      rw [h.put hput field hf draft, hseen, Bool.or_true]

/-- The first field of an object is one of the format's, not in the draft yet,
    and holds what it should. -/
theorem decodeFields_cons (h : format.Lawful decoders) {draft : δ} {name : String} {v : Value}
    {fields : List (String × Value)} {a : α} :
    format.decodeFields decoders draft ((name, v) :: fields) = some a
      ↔ name ∈ format.names ∧ ¬ format.Seen draft name
        ∧ ∃ put, decoders name v = some put
          ∧ format.decodeFields decoders (put draft) fields = some a := by
  rw [decodeFields]
  cases hfind : format.fields.find? (·.name == name) with
  | none =>
    simp only [reduceCtorEq, false_iff]
    rintro ⟨hmem, _⟩
    obtain ⟨field, hf, rfl⟩ := List.mem_map.1 hmem
    exact List.find?_eq_none.1 hfind field hf (beq_self_eq_true _)
  | some found =>
    have hfound := List.mem_of_find?_eq_some hfind
    have hname : found.name = name := by simpa using List.find?_some hfind
    have hmem : name ∈ format.names := hname ▸ List.mem_map_of_mem hfound
    -- no two fields have one name, so the one that was found is the one that counts
    have hiff : found.isSeen draft ↔ format.Seen draft name := by
      constructor
      · intro hseen
        exact ⟨found, hfound, hname, hseen⟩
      · rintro ⟨field, hf, heq, hseen⟩
        rw [h.eq_of_name_eq hfound hf (hname.trans heq.symm)]
        exact hseen
    simp only
    by_cases hseen : found.isSeen draft
    · rw [if_pos hseen]
      simp only [reduceCtorEq, false_iff]
      rintro ⟨_, hnot, _⟩
      exact hnot (hiff.1 hseen)
    · rw [if_neg hseen, Option.bind_eq_some_iff]
      constructor
      · intro hput
        exact ⟨hmem, fun hs => hseen (hiff.2 hs), hput⟩
      · rintro ⟨_, _, hput⟩
        exact hput

/-! ## What was decoded -/

/-- What is to be known of an object that was decoded. -/
theorem of_decodeFields (h : format.Lawful decoders) {draft : δ} {fields : List (String × Value)}
    {a : α} (hd : format.decodeFields decoders draft fields = some a) :
    (fields.map Prod.fst).Nodup
      ∧ (∀ field ∈ fields, field.1 ∈ format.names ∧ ¬ format.Seen draft field.1
          ∧ (decoders field.1 field.2).isSome)
      ∧ ∀ field ∈ format.fields, field.isRequired →
          format.Seen draft field.name ∨ field.name ∈ fields.map Prod.fst := by
  induction fields generalizing draft with
  | nil =>
    refine ⟨.nil, nofun, ?_⟩
    intro field hf hrequired
    exact .inl ⟨field, hf, rfl, h.build hd field hf hrequired⟩
  | cons field fields ih =>
    obtain ⟨name, v⟩ := field
    obtain ⟨hmem, hnot, put, hput, hrest⟩ := h.decodeFields_cons.1 hd
    obtain ⟨hnodup, hfields, hrequired⟩ := ih hrest
    have hseen := h.seen_put hput draft
    refine ⟨?_, ?_, ?_⟩
    · rw [List.map_cons, List.nodup_cons]
      refine ⟨?_, hnodup⟩
      -- a second field of the name would have met a draft that has seen it
      intro hin
      obtain ⟨field, hf, heq⟩ := List.mem_map.1 hin
      exact (hfields field hf).2.1 ((hseen _).2 (.inl ⟨heq, (hfields field hf).1⟩))
    · intro field hf
      rcases List.mem_cons.1 hf with rfl | hf
      · exact ⟨hmem, hnot, by rw [hput]; rfl⟩
      · obtain ⟨hname, hunseen, hdecode⟩ := hfields field hf
        exact ⟨hname, fun hs => hunseen ((hseen _).2 (.inr hs)), hdecode⟩
    · intro field hf hreq
      rcases hrequired field hf hreq with hs | hin
      · rcases (hseen _).1 hs with ⟨heq, _⟩ | hs
        · exact .inr (heq ▸ List.mem_cons_self)
        · exact .inl hs
      · exact .inr (List.mem_cons_of_mem _ hin)

end Lawful

/-- Every item of a record that was decoded from a list holds what its field should. -/
theorem of_decodeItems {fields : List (Field δ)} {draft : δ} {vs : List Value} {a : α}
    (h : format.decodeItems decoders fields draft vs = some a) {i : Nat} {field : Field δ}
    {v : Value} (hf : fields[i]? = some field) (hv : vs[i]? = some v) :
    (decoders field.name v).isSome := by
  induction fields generalizing draft vs i with
  | nil => cases hf
  | cons first fields ih =>
    cases vs with
    | nil => cases hv
    | cons w vs =>
      obtain ⟨put, hput, hrest⟩ := Option.bind_eq_some_iff.1 h
      cases i with
      | zero =>
        cases hf
        cases hv
        rw [hput]
        rfl
      | succ i => exact ih hrest hf hv

variable (format) in
/-- The names of the fields that may not be left out. -/
def required : List String := (format.fields.filter (·.isRequired)).map (·.name)

theorem isSome_of_decode_list {vs : List Value} (h : (format.decode decoders (.list vs)).isSome)
    {i : Nat} {name : String} {v : Value} (hname : format.names[i]? = some name)
    (hv : vs[i]? = some v) : (decoders name v).isSome := by
  obtain ⟨a, ha⟩ := Option.isSome_iff_exists.1 h
  rw [names, List.getElem?_map] at hname
  obtain ⟨field, hf, rfl⟩ := Option.map_eq_some_iff.1 hname
  exact of_decodeItems ha hf hv

end RecordFormat

/-- The fields of an object are just what a record may have. -/
structure AreFields (names required : List String) (Takes : String → Value → Prop)
    (fields : List (String × Value)) : Prop where
  nodup : (fields.map Prod.fst).Nodup
  known : ∀ field ∈ fields, field.1 ∈ names
  taken : ∀ field ∈ fields, Takes field.1 field.2
  complete : ∀ name ∈ required, name ∈ fields.map Prod.fst

/-- A field of an object is not among the others. -/
theorem AreFields.not_mem {names required : List String} {Takes : String → Value → Prop}
    {front back : List (String × Value)} {name : String} {v : Value}
    (h : AreFields names required Takes (front ++ (name, v) :: back)) :
    name ∉ (front ++ back).map Prod.fst := by
  have hnodup := h.nodup
  rw [List.map_append, List.map_cons, List.nodup_middle, List.nodup_cons] at hnodup
  rw [List.map_append]
  exact hnodup.1

theorem RecordFormat.Lawful.areFields {δ α : Type} {format : RecordFormat δ α}
    {decoders : String → Value → Option (δ → δ)} (h : format.Lawful decoders)
    {fields : List (String × Value)} (hd : (format.decode decoders (.object fields)).isSome) :
    AreFields format.names format.required (fun name v => (decoders name v).isSome) fields := by
  obtain ⟨a, ha⟩ := Option.isSome_iff_exists.1 hd
  obtain ⟨hnodup, hfields, hrequired⟩ := h.of_decodeFields ha
  refine ⟨hnodup, fun field hf => (hfields field hf).1, fun field hf => (hfields field hf).2.2, ?_⟩
  intro name hname
  obtain ⟨field, hf, rfl⟩ := List.mem_map.1 hname
  obtain ⟨hf, hreq⟩ := List.mem_filter.1 hf
  rcases hrequired field hf hreq with hseen | hin
  · exact absurd hseen (h.not_seen_blank _)
  · exact hin

/-! ## Writing a record -/

/-- A field as it may be written. -/
structure Slot where
  name : String
  /-- Whether the field may be left out. -/
  mayOmit : Prop
  Writes : Value → Prop

/-- A record is written as an object, with its fields in any order and some of
    those left out that may be, or as the list of all its fields in their own
    order. -/
inductive WritesRecord (slots : List Slot) : Value → Prop where
  | object {fields : List (String × Value)} :
      (fields.map Prod.fst).Nodup →
      (∀ field ∈ fields, ∃ slot ∈ slots, slot.name = field.1 ∧ slot.Writes field.2) →
      (∀ slot ∈ slots, slot.name ∈ fields.map Prod.fst ∨ slot.mayOmit) →
      WritesRecord slots (.object fields)
  | list {vs : List Value} : List.Forall₂ Slot.Writes slots vs → WritesRecord slots (.list vs)

namespace RecordFormat

variable {δ α : Type} {format : RecordFormat δ α} {decoders : String → Value → Option (δ → δ)}

variable (format decoders) in
/-- What the slots say of a record is kept in the drafts: every field that is
    written keeps the draft true to the record, and a true draft becomes that
    record once it has all that may not be left out. -/
structure Restores (slots : List Slot) (a : α) (IsTrue : δ → Prop) : Prop where
  names : slots.map (·.name) = format.names
  blank : IsTrue format.blank
  put : ∀ slot ∈ slots, ∀ v, slot.Writes v → ∃ put, decoders slot.name v = some put
    ∧ ∀ draft, IsTrue draft → IsTrue (put draft)
  build : ∀ draft, IsTrue draft → (∀ slot ∈ slots, format.Seen draft slot.name ∨ slot.mayOmit) →
    format.build? draft = some a

namespace Restores

variable {slots : List Slot} {a : α} {IsTrue : δ → Prop}

theorem name_mem (hr : format.Restores decoders slots a IsTrue) {slot : Slot} (h : slot ∈ slots) :
    slot.name ∈ format.names := hr.names ▸ List.mem_map_of_mem h

theorem decodeFields_eq (hr : format.Restores decoders slots a IsTrue)
    (h : format.Lawful decoders) {draft : δ} {fields : List (String × Value)}
    (htrue : IsTrue draft) (hnodup : (fields.map Prod.fst).Nodup)
    (hnew : ∀ field ∈ fields, ¬ format.Seen draft field.1)
    (hwrites : ∀ field ∈ fields, ∃ slot ∈ slots, slot.name = field.1 ∧ slot.Writes field.2)
    (hall : ∀ slot ∈ slots,
      (format.Seen draft slot.name ∨ slot.name ∈ fields.map Prod.fst) ∨ slot.mayOmit) :
    format.decodeFields decoders draft fields = some a := by
  induction fields generalizing draft with
  | nil =>
    apply hr.build draft htrue
    intro slot hslot
    rcases hall slot hslot with (hseen | hin) | homit
    · exact .inl hseen
    · cases hin
    · exact .inr homit
  | cons field fields ih =>
    obtain ⟨name, v⟩ := field
    rw [List.map_cons, List.nodup_cons] at hnodup
    obtain ⟨slot, hslot, rfl, hv⟩ := hwrites _ List.mem_cons_self
    obtain ⟨put, hput, hkeeps⟩ := hr.put slot hslot v hv
    have hmem := hr.name_mem hslot
    have hseen := h.seen_put hput draft
    refine h.decodeFields_cons.2 ⟨hmem, hnew _ List.mem_cons_self, put, hput, ?_⟩
    apply ih (hkeeps draft htrue) hnodup.2
    · -- what is newly seen is the name just read, which does not come again
      intro field hf hs
      rcases (hseen _).1 hs with ⟨heq, _⟩ | hs
      · exact hnodup.1 (List.mem_map.2 ⟨field, hf, heq⟩)
      · exact hnew field (List.mem_cons_of_mem _ hf) hs
    · intro field hf
      exact hwrites field (List.mem_cons_of_mem _ hf)
    · intro other hother
      rcases hall other hother with (hs | hin) | homit
      · exact .inl (.inl ((hseen _).2 (.inr hs)))
      · rcases List.mem_cons.1 hin with heq | hin
        · exact .inl (.inl ((hseen _).2 (.inl ⟨heq, hr.name_mem hother⟩)))
        · exact .inl (.inr hin)
      · exact .inr homit

theorem decodeItems_eq (hr : format.Restores decoders slots a IsTrue)
    (h : format.Lawful decoders) {left : List Slot} {fields : List (Field δ)} {draft : δ}
    {vs : List Value} (hwrites : List.Forall₂ Slot.Writes left vs)
    (hfields : left.map (·.name) = fields.map (·.name)) (hleft : ∀ slot ∈ left, slot ∈ slots)
    (htrue : IsTrue draft) (hall : ∀ slot ∈ slots, format.Seen draft slot.name ∨ slot ∈ left) :
    format.decodeItems decoders fields draft vs = some a := by
  -- along the items and the fields at once: slots and fields have the same names
  induction hwrites generalizing fields draft with
  | nil =>
    cases fields with
    | nil =>
      apply hr.build draft htrue
      intro slot hslot
      rcases hall slot hslot with hseen | hin
      · exact .inl hseen
      · cases hin
    | cons field fields => cases hfields
  | @cons slot v left vs hv _ ih =>
    cases fields with
    | nil => cases hfields
    | cons field fields =>
      have hname : slot.name = field.name := (List.cons.inj hfields).1
      have hrest := (List.cons.inj hfields).2
      have hslot := hleft slot List.mem_cons_self
      obtain ⟨put, hput, hkeeps⟩ := hr.put slot hslot v hv
      have hseen := h.seen_put hput draft
      rw [decodeItems, ← hname, hput]
      apply ih hrest (fun s hs => hleft s (List.mem_cons_of_mem _ hs)) (hkeeps draft htrue)
      intro other hother
      rcases hall other hother with hs | hin
      · exact .inl ((hseen _).2 (.inr hs))
      · rcases List.mem_cons.1 hin with rfl | hin
        · exact .inl ((hseen _).2 (.inl ⟨rfl, hr.name_mem hother⟩))
        · exact .inr hin

/-- A record is decoded from whatever writes it. -/
theorem decode_eq (hr : format.Restores decoders slots a IsTrue) (h : format.Lawful decoders)
    {v : Value} (hv : WritesRecord slots v) : format.decode decoders v = some a := by
  cases hv with
  | object hnodup hwrites hall =>
    apply hr.decodeFields_eq h hr.blank hnodup (fun field _ => h.not_seen_blank field.1) hwrites
    intro slot hslot
    exact (hall slot hslot).imp .inr id
  | list hwrites =>
    exact hr.decodeItems_eq h hwrites hr.names (fun _ hslot => hslot) hr.blank
      (fun _ hslot => .inr hslot)

end Restores

end RecordFormat

end ClassAtlas.Manifest
