import ClassAtlas.Proofs.Manifest.Formats
import ClassAtlas.Proofs.Manifest.Printing

/-! # Manifests come back as they were written

    A manifest can be written in many ways: its records as objects or as lists,
    the fields of an object in any order and with those left out that hold their
    default, kinds by themselves or inside an object, and all of it in any
    layout.  Whatever way is taken, the text is loaded as the manifest.
-/

namespace ClassAtlas.Manifest

/-! ## How the parts are written -/

/-- A kind is written as its keyword, or as an object with that one field, which
    holds `null`. -/
def WritesKind (keyword : String) (v : Value) : Prop :=
  v = .text keyword ∨ v = .object [(keyword, .null)]

def WritesText (s : String) (v : Value) : Prop := v = .text s

def WritesBool (b : Bool) (v : Value) : Prop := v = .bool b

def WritesList {α : Type} (writes : α → Value → Prop) (as : List α) (v : Value) : Prop :=
  ∃ vs, v = .list vs ∧ List.Forall₂ writes as vs

def scopeSlots (s : Scope) : List Slot :=
  [{ name := "kind", mayOmit := False, Writes := WritesKind s.kind.keyword },
   { name := "name", mayOmit := False, Writes := WritesText s.name }]

def WritesScope (s : Scope) : Value → Prop := WritesRecord (scopeSlots s)

def memberSlots (m : Member) : List Slot :=
  [{ name := "kind", mayOmit := False, Writes := WritesKind m.kind.keyword },
   { name := "name", mayOmit := False, Writes := WritesText m.name },
   { name := "public", mayOmit := m.isPublic = false, Writes := WritesBool m.isPublic },
   { name := "type", mayOmit := False, Writes := WritesText m.type }]

def WritesMember (m : Member) : Value → Prop := WritesRecord (memberSlots m)

def declarationSlots (d : Declaration) : List Slot :=
  [{ name := "kind", mayOmit := False, Writes := WritesKind d.kind.keyword },
   { name := "name", mayOmit := False, Writes := WritesText d.name },
   { name := "scopes", mayOmit := d.scopes = [], Writes := WritesList WritesScope d.scopes },
   { name := "members", mayOmit := d.members = [], Writes := WritesList WritesMember d.members },
   { name := "base_types", mayOmit := d.bases = [], Writes := WritesList WritesText d.bases }]

def WritesDeclaration (d : Declaration) : Value → Prop := WritesRecord (declarationSlots d)

def manifestSlots (source : String) (ds : List Declaration) : List Slot :=
  [{ name := "source", mayOmit := False, Writes := WritesText source },
   { name := "declarations", mayOmit := ds = [], Writes := WritesList WritesDeclaration ds }]

/-- The value writes a manifest that lists the declarations of a source file. -/
def WritesManifest (source : String) (ds : List Declaration) : Value → Prop :=
  WritesRecord (manifestSlots source ds)

/-! ## Fields -/

theorem choice?_of_writesKind {α : Type} {options : List (String × α)} {keyword : String} {a : α}
    {v : Value} (h : WritesKind keyword v) (hlookup : options.lookup keyword = some a) :
    v.choice? options = some a := by
  rcases h with rfl | rfl
  · exact hlookup
  · exact hlookup

theorem list?_of_writesList {α : Type} {writes : α → Value → Prop} {decode : Value → Option α}
    {as : List α} {v : Value} (h : WritesList writes as v)
    (hdecode : ∀ a v, writes a v → decode v = some a) : v.list? decode = some as := by
  obtain ⟨vs, rfl, hvs⟩ := h
  show vs.mapM decode = some as
  induction hvs with
  | nil => rfl
  | cons hv _ ih =>
    rw [List.mapM_cons, hdecode _ _ hv, ih]
    rfl

theorem text?_of_writesText (s : String) (v : Value) (h : WritesText s v) : v.text? = some s := by
  rw [h]
  rfl

theorem bool?_of_writesBool {b : Bool} {v : Value} (h : WritesBool b v) : v.bool? = some b := by
  rw [h]
  rfl

/-- Nothing but the given value is in a field of a draft. -/
def Holds {α : Type} (a : α) (a? : Option α) : Prop := a? = none ∨ a? = some a

theorem Holds.eq_some {α : Type} {a : α} {a? : Option α} (h : Holds a a?) (hseen : a?.isSome) :
    a? = some a := by
  rcases h with rfl | rfl
  · cases hseen
  · rfl

theorem Holds.getD_eq {α : Type} {a dflt : α} {a? : Option α} (h : Holds a a?)
    (hseen : a?.isSome ∨ a = dflt) : a?.getD dflt = a := by
  rcases h with rfl | rfl
  · rcases hseen with hseen | rfl
    · cases hseen
    · rfl
  · rfl

/-! ## Records -/

theorem scopeFormat_restores (s : Scope) :
    scopeFormat.Restores scopeDecoder (scopeSlots s) s fun draft =>
      Holds s.kind draft.kind? ∧ Holds s.name draft.name? where
  names := rfl
  blank := ⟨.inl rfl, .inl rfl⟩
  put := by
    intro slot hslot v hv
    simp only [scopeSlots, List.mem_cons, List.not_mem_nil, or_false] at hslot
    rcases hslot with rfl | rfl
    -- the other fields of the draft stay as they were
    · have hkind : v.choice? scopeKinds = some s.kind :=
        choice?_of_writesKind hv (by cases s.kind <;> rfl)
      refine ⟨_, by rw [scopeDecoder, hkind]; rfl, ?_⟩
      rintro draft ⟨_, hname⟩
      exact ⟨.inr rfl, hname⟩
    · refine ⟨_, by rw [scopeDecoder, text?_of_writesText _ v hv]; rfl, ?_⟩
      rintro draft ⟨hkind, _⟩
      exact ⟨hkind, .inr rfl⟩
  build := by
    -- a field that is there holds its value, one that is not there is a default
    rintro draft ⟨hkind, hname⟩ hall
    have hseen : draft.kind?.isSome ∧ draft.name?.isSome := by
      simpa [scopeSlots, RecordFormat.Seen, scopeFormat] using hall
    exact scopeFormat_build.2 ⟨hkind.eq_some hseen.1, hname.eq_some hseen.2⟩

theorem decode_of_writesScope (s : Scope) (v : Value) (h : WritesScope s v) :
    scopeFormat.decode scopeDecoder v = some s :=
  (scopeFormat_restores s).decode_eq scopeFormat_lawful h

theorem memberFormat_restores (m : Member) :
    memberFormat.Restores memberDecoder (memberSlots m) m fun draft =>
      Holds m.kind draft.kind? ∧ Holds m.name draft.name? ∧ Holds m.isPublic draft.public?
        ∧ Holds m.type draft.type? where
  names := rfl
  blank := ⟨.inl rfl, .inl rfl, .inl rfl, .inl rfl⟩
  put := by
    intro slot hslot v hv
    simp only [memberSlots, List.mem_cons, List.not_mem_nil, or_false] at hslot
    rcases hslot with rfl | rfl | rfl | rfl
    · have hkind : v.choice? memberKinds = some m.kind :=
        choice?_of_writesKind hv (by cases m.kind <;> rfl)
      refine ⟨_, by rw [memberDecoder, hkind]; rfl, ?_⟩
      rintro draft ⟨_, hname, hpublic, htype⟩
      exact ⟨.inr rfl, hname, hpublic, htype⟩
    · refine ⟨_, by rw [memberDecoder, text?_of_writesText _ v hv]; rfl, ?_⟩
      rintro draft ⟨hkind, _, hpublic, htype⟩
      exact ⟨hkind, .inr rfl, hpublic, htype⟩
    · refine ⟨_, by rw [memberDecoder, bool?_of_writesBool hv]; rfl, ?_⟩
      rintro draft ⟨hkind, hname, _, htype⟩
      exact ⟨hkind, hname, .inr rfl, htype⟩
    · refine ⟨_, by rw [memberDecoder, text?_of_writesText _ v hv]; rfl, ?_⟩
      rintro draft ⟨hkind, hname, hpublic, _⟩
      exact ⟨hkind, hname, hpublic, .inr rfl⟩
  build := by
    rintro draft ⟨hkind, hname, hpublic, htype⟩ hall
    have hseen : draft.kind?.isSome ∧ draft.name?.isSome
        ∧ (draft.public?.isSome ∨ m.isPublic = false) ∧ draft.type?.isSome := by
      simpa [memberSlots, RecordFormat.Seen, memberFormat] using hall
    exact memberFormat_build.2 ⟨hkind.eq_some hseen.1, hname.eq_some hseen.2.1,
      htype.eq_some hseen.2.2.2, hpublic.getD_eq hseen.2.2.1⟩

theorem decode_of_writesMember (m : Member) (v : Value) (h : WritesMember m v) :
    memberFormat.decode memberDecoder v = some m :=
  (memberFormat_restores m).decode_eq memberFormat_lawful h

theorem declarationFormat_restores (d : Declaration) :
    declarationFormat.Restores declarationDecoder (declarationSlots d) d fun draft =>
      Holds d.kind draft.kind? ∧ Holds d.name draft.name? ∧ Holds d.scopes draft.scopes?
        ∧ Holds d.members draft.members? ∧ Holds d.bases draft.bases? where
  names := rfl
  blank := ⟨.inl rfl, .inl rfl, .inl rfl, .inl rfl, .inl rfl⟩
  put := by
    intro slot hslot v hv
    simp only [declarationSlots, List.mem_cons, List.not_mem_nil, or_false] at hslot
    rcases hslot with rfl | rfl | rfl | rfl | rfl
    · have hkind : v.choice? declarationKinds = some d.kind :=
        choice?_of_writesKind hv (by cases d.kind <;> rfl)
      refine ⟨_, by rw [declarationDecoder, hkind]; rfl, ?_⟩
      rintro draft ⟨_, hname, hscopes, hmembers, hbases⟩
      exact ⟨.inr rfl, hname, hscopes, hmembers, hbases⟩
    · refine ⟨_, by rw [declarationDecoder, text?_of_writesText _ v hv]; rfl, ?_⟩
      rintro draft ⟨hkind, _, hscopes, hmembers, hbases⟩
      exact ⟨hkind, .inr rfl, hscopes, hmembers, hbases⟩
    · have hlist := list?_of_writesList hv decode_of_writesScope
      refine ⟨_, by rw [declarationDecoder, hlist]; rfl, ?_⟩
      rintro draft ⟨hkind, hname, _, hmembers, hbases⟩
      exact ⟨hkind, hname, .inr rfl, hmembers, hbases⟩
    · have hlist := list?_of_writesList hv decode_of_writesMember
      refine ⟨_, by rw [declarationDecoder, hlist]; rfl, ?_⟩
      rintro draft ⟨hkind, hname, hscopes, _, hbases⟩
      exact ⟨hkind, hname, hscopes, .inr rfl, hbases⟩
    · have hlist := list?_of_writesList hv text?_of_writesText
      refine ⟨_, by rw [declarationDecoder, hlist]; rfl, ?_⟩
      rintro draft ⟨hkind, hname, hscopes, hmembers, _⟩
      exact ⟨hkind, hname, hscopes, hmembers, .inr rfl⟩
  build := by
    rintro draft ⟨hkind, hname, hscopes, hmembers, hbases⟩ hall
    have hseen : draft.kind?.isSome ∧ draft.name?.isSome
        ∧ (draft.scopes?.isSome ∨ d.scopes = []) ∧ (draft.members?.isSome ∨ d.members = [])
        ∧ (draft.bases?.isSome ∨ d.bases = []) := by
      simpa [declarationSlots, RecordFormat.Seen, declarationFormat] using hall
    obtain ⟨hk, hn, hs, hm, hb⟩ := hseen
    exact declarationFormat_build.2 ⟨hkind.eq_some hk, hname.eq_some hn, hscopes.getD_eq hs,
      hmembers.getD_eq hm, hbases.getD_eq hb⟩

theorem decode_of_writesDeclaration (d : Declaration) (v : Value) (h : WritesDeclaration d v) :
    declarationFormat.decode declarationDecoder v = some d :=
  (declarationFormat_restores d).decode_eq declarationFormat_lawful h

theorem format_restores (source : String) (ds : List Declaration) :
    format.Restores manifestDecoder (manifestSlots source ds) ⟨source, ds⟩ fun draft =>
      Holds source draft.source? ∧ Holds ds draft.declarations? where
  names := rfl
  blank := ⟨.inl rfl, .inl rfl⟩
  put := by
    intro slot hslot v hv
    simp only [manifestSlots, List.mem_cons, List.not_mem_nil, or_false] at hslot
    rcases hslot with rfl | rfl
    · refine ⟨_, by rw [manifestDecoder, text?_of_writesText _ v hv]; rfl, ?_⟩
      rintro draft ⟨_, hds⟩
      exact ⟨.inr rfl, hds⟩
    · have hlist := list?_of_writesList hv decode_of_writesDeclaration
      refine ⟨_, by rw [manifestDecoder, hlist]; rfl, ?_⟩
      rintro draft ⟨hsource, _⟩
      exact ⟨hsource, .inr rfl⟩
  build := by
    rintro draft ⟨hsource, hds⟩ hall
    have hseen : draft.source?.isSome ∧ (draft.declarations?.isSome ∨ ds = []) := by
      simpa [manifestSlots, RecordFormat.Seen, format] using hall
    exact format_build.2 ⟨hsource.eq_some hseen.1, hds.getD_eq hseen.2⟩

theorem decode_of_writesManifest {source : String} {ds : List Declaration} {v : Value}
    (h : WritesManifest source ds v) : decode v = some ⟨source, ds⟩ :=
  (format_restores source ds).decode_eq format_lawful h

/-! ## Texts -/

/-- Whichever way a manifest is written and spelled, its text is loaded as just
    its declarations, in order.  Their source file is the given one, found from
    the directory of the manifest unless it is absolute. -/
theorem load_of_spelledAs {path : Path} {source : String} {ds : List Declaration} {v : Value}
    {text : String} (hv : WritesManifest source ds v) (htext : v.SpelledAs text) :
    load path text = .ok (ds.map fun d =>
      { d with
        source :=
          if (Path.ofString source).isAbsolute then .ofString source
          else (path.parent?.getD .empty).join (.ofString source) }) := by
  rw [load_of_decode htext (decode_of_writesManifest hv) path]
  -- joining passes over the directory if the source is absolute
  have hsource : sourcePath path source
      = if (Path.ofString source).isAbsolute then .ofString source
        else (path.parent?.getD .empty).join (.ofString source) := by
    by_cases habsolute : (Path.ofString source).isAbsolute
    · rw [if_pos habsolute, sourcePath, Path.join, if_pos habsolute]
    · rw [if_neg habsolute, sourcePath]
  rw [← hsource]

/-- A class with one member, in a mixture of forms. -/
def mixedDeclaration : Value :=
  .object
    [("name", .text "😀"),
     ("members", .list [.list [.object [("field", .null)], .text "x", .bool false, .text "Y"]]),
     ("kind", .text "class")]

def mixedManifest : Value :=
  .object [("declarations", .list [mixedDeclaration]), ("source", .text "a.cs")]

theorem load_of_spelledAs_mixed :
    load (.ofString "/game/a.decl.json") (Style.numeric.print mixedManifest)
      = .ok [{ kind := .classType, name := "😀",
               members := [{ kind := .field, name := "x", type := "Y" }],
               source := .ofString "/game/a.cs" }] := by
  have hmember : WritesMember { kind := .field, name := "x", type := "Y" }
      (.list [.object [("field", .null)], .text "x", .bool false, .text "Y"]) :=
    .list (.cons (.inr rfl) (.cons rfl (.cons rfl (.cons rfl .nil))))
  have hdeclaration : WritesDeclaration
      { kind := .classType, name := "😀", members := [{ kind := .field, name := "x", type := "Y" }] }
      mixedDeclaration := by
    refine .object (by decide) ?_ ?_
    · simp [declarationSlots, WritesText, WritesKind, WritesList, hmember,
        DeclarationKind.keyword]
    · simp [declarationSlots]
  have hmanifest : WritesManifest "a.cs"
      [{ kind := .classType, name := "😀", members := [{ kind := .field, name := "x", type := "Y" }] }]
      mixedManifest := by
    refine .object (by decide) ?_ ?_
    · simp [manifestSlots, WritesText, WritesList, hdeclaration]
    · simp [manifestSlots]
  rw [load_of_spelledAs hmanifest (Style.numeric.spelledAs_print _)]
  exact congrArg Except.ok (by decide)

end ClassAtlas.Manifest
