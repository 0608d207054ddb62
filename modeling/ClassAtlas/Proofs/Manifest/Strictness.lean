import ClassAtlas.Proofs.Manifest.Formats
import ClassAtlas.Proofs.Manifest.Printing

/-! # Nothing in a manifest is passed over

    A text is refused as soon as one record in it, at whatever depth, has a
    field too many, a field twice, a required field too few, or a kind that
    there is none of.  What else the manifest holds, and in which layout it is
    spelled, makes no difference.
-/

namespace ClassAtlas.Manifest

/-! ## The records of a manifest -/

inductive Part where
  | manifest
  | declaration
  | scope
  | member
  deriving DecidableEq, Repr

namespace Part

/-- The names of the fields, in their own order. -/
def names : Part → List String
  | .manifest => ["source", "declarations"]
  | .declaration => ["kind", "name", "scopes", "members", "base_types"]
  | .scope => ["kind", "name"]
  | .member => ["kind", "name", "public", "type"]

/-- The names of the fields that may not be left out. -/
def required : Part → List String
  | .manifest => ["source"]
  | .declaration => ["kind", "name"]
  | .scope => ["kind", "name"]
  | .member => ["kind", "name", "type"]

/-- The kinds there are. -/
def kinds : Part → List String
  | .manifest => []
  | .declaration => ["class", "interface"]
  | .scope => ["namespace", "type"]
  | .member => ["field", "property", "method"]

/-- What a field lists, if it lists records. -/
def items? : Part → String → Option Part
  | .manifest, "declarations" => some .declaration
  | .declaration, "scopes" => some .scope
  | .declaration, "members" => some .member
  | _, _ => none

/-- The value is a record of this kind. -/
def Accepts : Part → Value → Prop
  | .manifest, v => (decode v).isSome
  | .declaration, v => (declarationFormat.decode declarationDecoder v).isSome
  | .scope, v => (scopeFormat.decode scopeDecoder v).isSome
  | .member, v => (memberFormat.decode memberDecoder v).isSome

/-- The field may hold the value. -/
def Takes : Part → String → Value → Prop
  | .manifest, name, v => (manifestDecoder name v).isSome
  | .declaration, name, v => (declarationDecoder name v).isSome
  | .scope, name, v => (scopeDecoder name v).isSome
  | .member, name, v => (memberDecoder name v).isSome

end Part

/-! ## Spoiling a record -/

/-- The second value is the first with one fault in one of its records. -/
inductive Spoils : Part → Value → Value → Prop where
  | unknownField {p : Part} {name : String} (v : Value) (front back : List (String × Value)) :
      name ∉ p.names →
      Spoils p (.object (front ++ back)) (.object (front ++ (name, v) :: back))
  | repeatedField {p : Part} {name : String} (v : Value) {front back : List (String × Value)} :
      name ∈ (front ++ back).map Prod.fst →
      Spoils p (.object (front ++ back)) (.object (front ++ (name, v) :: back))
  | missingField {p : Part} {name : String} (v : Value) (front back : List (String × Value)) :
      name ∈ p.required →
      Spoils p (.object (front ++ (name, v) :: back)) (.object (front ++ back))
  | unknownKind {p : Part} {s : String} (v : Value) (front back : List (String × Value)) :
      s ∉ p.kinds →
      Spoils p (.object (front ++ ("kind", v) :: back))
        (.object (front ++ ("kind", .text s) :: back))
  /-- The fault is in one of the records that a field of an object lists. -/
  | inField {p q : Part} {name : String} {v v' : Value} (front back : List (String × Value))
      (before after : List Value) :
      p.items? name = some q → Spoils q v v' →
      Spoils p (.object (front ++ (name, .list (before ++ v :: after)) :: back))
        (.object (front ++ (name, .list (before ++ v' :: after)) :: back))
  /-- The same in a record that is written as the list of its fields. -/
  | inItem {p q : Part} {name : String} {v v' : Value} (front back before after : List Value) :
      p.names[front.length]? = some name → p.items? name = some q → Spoils q v v' →
      Spoils p (.list (front ++ .list (before ++ v :: after) :: back))
        (.list (front ++ .list (before ++ v' :: after) :: back))

/-! ## Accepted records -/

namespace Part

theorem areFields {p : Part} {fields : List (String × Value)} (h : p.Accepts (.object fields)) :
    AreFields p.names p.required p.Takes fields := by
  cases p with
  | manifest => exact format_lawful.areFields h
  | declaration => exact declarationFormat_lawful.areFields h
  | scope => exact scopeFormat_lawful.areFields h
  | member => exact memberFormat_lawful.areFields h

theorem takes_of_accepts_list {p : Part} {front back : List Value} {name : String} {v : Value}
    (h : p.Accepts (.list (front ++ v :: back))) (hname : p.names[front.length]? = some name) :
    p.Takes name v := by
  have hv : (front ++ v :: back)[front.length]? = some v := by simp
  cases p with
  | manifest => exact format.isSome_of_decode_list h hname hv
  | declaration => exact declarationFormat.isSome_of_decode_list h hname hv
  | scope => exact scopeFormat.isSome_of_decode_list h hname hv
  | member => exact memberFormat.isSome_of_decode_list h hname hv

theorem mem_of_choice? {α : Type} {options : List (String × α)} {s : String}
    (h : (Value.choice? options (.text s)).isSome) : s ∈ options.map (·.1) := by
  obtain ⟨option, hmem, heq⟩ := List.lookup_isSome_iff.1 h
  rw [eq_of_beq heq]
  exact List.mem_map_of_mem hmem

/-- Only the kinds there are may be named. -/
theorem mem_kinds_of_takes {p : Part} {s : String} (h : p.Takes "kind" (.text s)) :
    s ∈ p.kinds := by
  cases p with
  | manifest => cases h
  | declaration =>
    simp only [Takes, declarationDecoder, Option.isSome_map] at h
    exact mem_of_choice? h
  | scope =>
    simp only [Takes, scopeDecoder, Option.isSome_map] at h
    exact mem_of_choice? h
  | member =>
    simp only [Takes, memberDecoder, Option.isSome_map] at h
    exact mem_of_choice? h

theorem isSome_of_list? {α : Type} {decode : Value → Option α} {vs : List Value}
    (h : (Value.list? decode (.list vs)).isSome) : ∀ v ∈ vs, (decode v).isSome := by
  have hmap : (vs.mapM decode).isSome := h
  clear h
  induction vs with
  | nil => exact nofun
  | cons w vs ih =>
    rw [List.mapM_cons] at hmap
    cases hw : decode w with
    | none =>
      rw [hw] at hmap
      cases hmap
    | some a =>
      cases hvs : vs.mapM decode with
      | none =>
        rw [hw, hvs] at hmap
        cases hmap
      | some as =>
        intro v hv
        rcases List.mem_cons.1 hv with rfl | hv
        · rw [hw]
          rfl
        · exact ih (by rw [hvs]; rfl) v hv

/-- A field that lists records lists nothing else. -/
theorem accepts_of_takes {p q : Part} {name : String} {vs : List Value}
    (hq : p.items? name = some q) (h : p.Takes name (.list vs)) : ∀ v ∈ vs, q.Accepts v := by
  unfold items? at hq
  split at hq
  · cases hq
    simp only [Takes, manifestDecoder, Option.isSome_map] at h
    exact isSome_of_list? h
  · cases hq
    simp only [Takes, declarationDecoder, Option.isSome_map] at h
    exact isSome_of_list? h
  · cases hq
    simp only [Takes, declarationDecoder, Option.isSome_map] at h
    exact isSome_of_list? h
  · cases hq

end Part

/-! ## Spoilt records -/

/-- No record is accepted after it is spoilt. -/
theorem Spoils.not_accepts {p : Part} {v v' : Value} (h : Spoils p v v') (hv : p.Accepts v) :
    ¬ p.Accepts v' := by
  intro hv'
  -- a fault inside a list is refused where it is, and the list with it
  induction h with
  | unknownField v front back hname =>
    have hknown := (Part.areFields hv').known _ (List.mem_append_right _ List.mem_cons_self)
    exact hname hknown
  | repeatedField v hname => exact (Part.areFields hv').not_mem hname
  | missingField v front back hname =>
    -- only the deleted field had the name: the accepted record has it once
    have hleft := (Part.areFields hv').complete _ hname
    exact (Part.areFields hv).not_mem hleft
  | unknownKind v front back hs =>
    have htakes := (Part.areFields hv').taken _ (List.mem_append_right _ List.mem_cons_self)
    exact hs (Part.mem_kinds_of_takes htakes)
  | inField front back before after hq _ ih =>
    have htakes := (Part.areFields hv).taken _ (List.mem_append_right _ List.mem_cons_self)
    have htakes' := (Part.areFields hv').taken _ (List.mem_append_right _ List.mem_cons_self)
    apply ih
    · exact Part.accepts_of_takes hq htakes _ (List.mem_append_right _ List.mem_cons_self)
    · exact Part.accepts_of_takes hq htakes' _ (List.mem_append_right _ List.mem_cons_self)
  | inItem front back before after hname hq _ ih =>
    have htakes := Part.takes_of_accepts_list hv hname
    have htakes' := Part.takes_of_accepts_list hv' hname
    apply ih
    · exact Part.accepts_of_takes hq htakes _ (List.mem_append_right _ List.mem_cons_self)
    · exact Part.accepts_of_takes hq htakes' _ (List.mem_append_right _ List.mem_cons_self)

/-! ## Refused texts -/

/-- If a text is loaded and the manifest that it spells is spoilt, then no text
    of the spoilt manifest is loaded, and the error names its path. -/
theorem load_eq_error_of_spoils {path : Path} {v v' : Value} {text text' : String}
    {es : List Entity} (htext : v.SpelledAs text) (hload : load path text = .ok es)
    (hspoils : Spoils .manifest v v') (htext' : v'.SpelledAs text') :
    ∃ message, load path text' = .error (.declarationSource path message) := by
  have hv : Part.manifest.Accepts v := by
    cases hdecode : decode v with
    | some c => exact Option.isSome_iff_exists.2 ⟨c, hdecode⟩
    | none =>
      obtain ⟨message, herror⟩ := load_of_decode_eq_none htext hdecode path
      rw [hload] at herror
      cases herror
  have hv' : decode v' = none := Option.not_isSome_iff_eq_none.1 (hspoils.not_accepts hv)
  exact load_of_decode_eq_none htext' hv' path

/-- A manifest of one class in the given scope. -/
def manifestInScope (scope : Value) : Value :=
  .object
    [("source", .text "a.cs"),
     ("declarations", .list
       [.object [("kind", .text "class"), ("name", .text "A"), ("scopes", .list [scope])]])]

theorem load_eq_error_of_spoils_in_scope :
    (load (.ofString "/a.decl.json") (Style.compact.print (manifestInScope
        (.object [("kind", .text "type"), ("name", .text "B")]))) =
      .ok [{ kind := .classType, name := "A", scopes := [⟨.ofType, "B"⟩], source := .ofString "/a.cs" }])
      ∧ ∃ message, load (.ofString "/a.decl.json") (Style.compact.print (manifestInScope
        (.object [("kind", .text "type"), ("alias", .null), ("name", .text "B")])))
          = .error (.declarationSource (.ofString "/a.decl.json") message) := by
  have hdecode : decode (manifestInScope (.object [("kind", .text "type"), ("name", .text "B")]))
      = some ⟨"a.cs", [{ kind := .classType, name := "A", scopes := [⟨.ofType, "B"⟩] }]⟩ := rfl
  have hspoils : Spoils .manifest
      (manifestInScope (.object [("kind", .text "type"), ("name", .text "B")]))
      (manifestInScope (.object [("kind", .text "type"), ("alias", .null), ("name", .text "B")])) := by
    apply Spoils.inField [("source", .text "a.cs")] [] [] []
    · rfl
    · apply Spoils.inField [("kind", .text "class"), ("name", .text "A")] [] [] []
      · rfl
      · exact .unknownField .null [("kind", .text "type")] [("name", .text "B")] (by decide)
  have hload := load_of_decode (Style.compact.spelledAs_print _) hdecode (.ofString "/a.decl.json")
  refine ⟨hload.trans (congrArg Except.ok (by decide)), ?_⟩
  exact load_eq_error_of_spoils (Style.compact.spelledAs_print _) hload hspoils
    (Style.compact.spelledAs_print _)

end ClassAtlas.Manifest
