import ClassAtlas.Manifest.Batch
import ClassAtlas.Proofs.Manifest.Record

/-! # The formats of a manifest, decoded

    The four records of a manifest, each with a decoder for every field.  Each
    format is lawful and its reader follows its decoder, so whether a text is a
    manifest, and of what, depends on the value that it spells.
-/

namespace ClassAtlas.Manifest

/-! ## Decoders -/

def scopeDecoder : String → Value → Option (ScopeDraft → ScopeDraft)
  | "kind", v => (v.choice? scopeKinds).map fun k draft => { draft with kind? := some k }
  | "name", v => v.text?.map fun s draft => { draft with name? := some s }
  | _, _ => none

def memberDecoder : String → Value → Option (MemberDraft → MemberDraft)
  | "kind", v => (v.choice? memberKinds).map fun k draft => { draft with kind? := some k }
  | "name", v => v.text?.map fun s draft => { draft with name? := some s }
  | "public", v => v.bool?.map fun b draft => { draft with public? := some b }
  | "type", v => v.text?.map fun s draft => { draft with type? := some s }
  | _, _ => none

def declarationDecoder : String → Value → Option (DeclarationDraft → DeclarationDraft)
  | "kind", v => (v.choice? declarationKinds).map fun k draft => { draft with kind? := some k }
  | "name", v => v.text?.map fun s draft => { draft with name? := some s }
  | "scopes", v =>
    (v.list? (scopeFormat.decode scopeDecoder)).map fun l draft => { draft with scopes? := some l }
  | "members", v =>
    (v.list? (memberFormat.decode memberDecoder)).map fun l draft =>
      { draft with members? := some l }
  | "base_types", v => (v.list? Value.text?).map fun l draft => { draft with bases? := some l }
  | _, _ => none

def manifestDecoder : String → Value → Option (Draft → Draft)
  | "source", v => v.text?.map fun s draft => { draft with source? := some s }
  | "declarations", v =>
    (v.list? (declarationFormat.decode declarationDecoder)).map fun l draft =>
      { draft with declarations? := some l }
  | _, _ => none

/-! ## Building -/

theorem need_bind_eq_ok {α β : Type} {name : String} {a? : Option α} {f : α → Except String β}
    {b : β} : need name a? >>= f = .ok b ↔ ∃ a, a? = some a ∧ f a = .ok b := by
  cases a? with
  | none => simp [need, bind, Except.bind]
  | some a => simp [need, bind, Except.bind]

theorem need_map_eq_ok {α β : Type} {name : String} {a? : Option α} {f : α → β} {b : β} :
    f <$> need name a? = .ok b ↔ ∃ a, a? = some a ∧ f a = b := by
  cases a? with
  | none => simp [need, Functor.map, Except.map]
  | some a => simp [need, Functor.map, Except.map]

theorem scopeFormat_build {draft : ScopeDraft} {s : Scope} :
    scopeFormat.build? draft = some s
      ↔ draft.kind? = some s.kind ∧ draft.name? = some s.name := by
  cases s
  rw [RecordFormat.build?_eq_some]
  simp [scopeFormat, need_bind_eq_ok, need_map_eq_ok]

theorem memberFormat_build {draft : MemberDraft} {m : Member} :
    memberFormat.build? draft = some m
      ↔ draft.kind? = some m.kind ∧ draft.name? = some m.name ∧ draft.type? = some m.type
        ∧ draft.public?.getD false = m.isPublic := by
  cases m
  rw [RecordFormat.build?_eq_some]
  simp [memberFormat, need_bind_eq_ok, need_map_eq_ok]

theorem declarationFormat_build {draft : DeclarationDraft} {d : Declaration} :
    declarationFormat.build? draft = some d
      ↔ draft.kind? = some d.kind ∧ draft.name? = some d.name
        ∧ draft.scopes?.getD [] = d.scopes ∧ draft.members?.getD [] = d.members
        ∧ draft.bases?.getD [] = d.bases := by
  cases d
  rw [RecordFormat.build?_eq_some]
  simp [declarationFormat, need_bind_eq_ok, need_map_eq_ok]

theorem format_build {draft : Draft} {c : Contents} :
    format.build? draft = some c
      ↔ draft.source? = some c.source ∧ draft.declarations?.getD [] = c.declarations := by
  cases c
  rw [RecordFormat.build?_eq_some]
  simp [format, need_map_eq_ok]

/-! ## Lawful formats -/

theorem scopeFormat_lawful : scopeFormat.Lawful scopeDecoder where
  nodup := by decide
  blank := by simp [scopeFormat]
  put := by
    intro name v put h field hf draft
    unfold scopeDecoder at h
    simp only [scopeFormat, List.mem_cons, List.not_mem_nil, or_false] at hf
    split at h
    -- any other name has no decoder; an arm for a name fills that field alone
    case h_3 => cases h
    all_goals
      obtain ⟨_, _, rfl⟩ := Option.map_eq_some_iff.1 h
      rcases hf with rfl | rfl <;> rfl
  build := by
    intro draft a h field hf hrequired
    obtain ⟨hkind, hname⟩ := scopeFormat_build.1 h
    simp only [scopeFormat, List.mem_cons, List.not_mem_nil, or_false] at hf
    rcases hf with rfl | rfl
    · simp [hkind]
    · simp [hname]

theorem memberFormat_lawful : memberFormat.Lawful memberDecoder where
  nodup := by decide
  blank := by simp [memberFormat]
  put := by
    intro name v put h field hf draft
    unfold memberDecoder at h
    simp only [memberFormat, List.mem_cons, List.not_mem_nil, or_false] at hf
    split at h
    case h_5 => cases h
    all_goals
      obtain ⟨_, _, rfl⟩ := Option.map_eq_some_iff.1 h
      rcases hf with rfl | rfl | rfl | rfl <;> rfl
  build := by
    intro draft a h field hf hrequired
    obtain ⟨hkind, hname, htype, _⟩ := memberFormat_build.1 h
    simp only [memberFormat, List.mem_cons, List.not_mem_nil, or_false] at hf
    rcases hf with rfl | rfl | rfl | rfl
    · simp [hkind]
    · simp [hname]
    · cases hrequired
    · simp [htype]

theorem declarationFormat_lawful : declarationFormat.Lawful declarationDecoder where
  nodup := by decide
  blank := by simp [declarationFormat]
  put := by
    intro name v put h field hf draft
    unfold declarationDecoder at h
    simp only [declarationFormat, List.mem_cons, List.not_mem_nil, or_false] at hf
    split at h
    case h_6 => cases h
    all_goals
      obtain ⟨_, _, rfl⟩ := Option.map_eq_some_iff.1 h
      rcases hf with rfl | rfl | rfl | rfl | rfl <;> rfl
  build := by
    intro draft a h field hf hrequired
    obtain ⟨hkind, hname, _⟩ := declarationFormat_build.1 h
    simp only [declarationFormat, List.mem_cons, List.not_mem_nil, or_false] at hf
    rcases hf with rfl | rfl | rfl | rfl | rfl
    · simp [hkind]
    · simp [hname]
    · cases hrequired
    · cases hrequired
    · cases hrequired

theorem format_lawful : format.Lawful manifestDecoder where
  nodup := by decide
  blank := by simp [format]
  put := by
    intro name v put h field hf draft
    unfold manifestDecoder at h
    simp only [format, List.mem_cons, List.not_mem_nil, or_false] at hf
    split at h
    case h_3 => cases h
    all_goals
      obtain ⟨_, _, rfl⟩ := Option.map_eq_some_iff.1 h
      rcases hf with rfl | rfl <;> rfl
  build := by
    intro draft a h field hf hrequired
    obtain ⟨hsource, _⟩ := format_build.1 h
    simp only [format, List.mem_cons, List.not_mem_nil, or_false] at hf
    rcases hf with rfl | rfl
    · simp [hsource]
    · cases hrequired

/-! ## Readers -/

theorem scopeFormat_follows : scopeFormat.reader.Follows (scopeFormat.decode scopeDecoder) := by
  apply RecordFormat.reader_follows
  intro field hf
  simp only [scopeFormat, List.mem_cons, List.not_mem_nil, or_false] at hf
  rcases hf with rfl | rfl
  · exact Reader.map_follows (Reader.choice_follows _) _
  · exact Reader.map_follows (Reader.text_follows _) _

theorem memberFormat_follows : memberFormat.reader.Follows (memberFormat.decode memberDecoder) := by
  apply RecordFormat.reader_follows
  intro field hf
  simp only [memberFormat, List.mem_cons, List.not_mem_nil, or_false] at hf
  rcases hf with rfl | rfl | rfl | rfl
  · exact Reader.map_follows (Reader.choice_follows _) _
  · exact Reader.map_follows (Reader.text_follows _) _
  · exact Reader.map_follows Reader.bool_follows _
  · exact Reader.map_follows (Reader.text_follows _) _

theorem declarationFormat_follows :
    declarationFormat.reader.Follows (declarationFormat.decode declarationDecoder) := by
  apply RecordFormat.reader_follows
  intro field hf
  simp only [declarationFormat, List.mem_cons, List.not_mem_nil, or_false] at hf
  rcases hf with rfl | rfl | rfl | rfl | rfl
  · exact Reader.map_follows (Reader.choice_follows _) _
  · exact Reader.map_follows (Reader.text_follows _) _
  · exact Reader.map_follows (Reader.list_follows scopeFormat_follows) _
  · exact Reader.map_follows (Reader.list_follows memberFormat_follows) _
  · exact Reader.map_follows (Reader.list_follows (Reader.text_follows _)) _

theorem format_follows : format.reader.Follows (format.decode manifestDecoder) := by
  apply RecordFormat.reader_follows
  intro field hf
  simp only [format, List.mem_cons, List.not_mem_nil, or_false] at hf
  rcases hf with rfl | rfl
  · exact Reader.map_follows (Reader.text_follows _) _
  · exact Reader.map_follows (Reader.list_follows declarationFormat_follows) _

/-! ## Whole texts -/

/-- What a manifest says, by the value that spells it. -/
def decode (v : Value) : Option Contents := format.decode manifestDecoder v

/-- The tape of a text that spells a value is read up to its end. -/
theorem run_ofText {v : Value} {text : String} (h : v.SpelledAs text) :
    ∃ stop, Yields (.finish stop) (decode v) (format.reader.run (.ofText text)) := by
  obtain ⟨stop, hshows⟩ := Tape.shows_ofChars h 0
  exact ⟨stop, format_follows hshows⟩

theorem load_of_read {text : String} {c : Contents} (h : read text = .ok c) (path : Path) :
    load path text = .ok (c.declarations.map fun d => { d with source := sourcePath path c.source }) := by
  rw [load, parse, h]
  rfl

theorem load_of_read_eq_error {text : String} {fault : Fault} (h : read text = .error fault)
    (path : Path) : load path text = .error (.declarationSource path (fault.message text)) := by
  rw [load, parse, h]
  rfl

theorem read_of_decode {v : Value} {text : String} {c : Contents} (h : v.SpelledAs text)
    (hdecode : decode v = some c) : read text = .ok c := by
  obtain ⟨stop, hyields⟩ := run_ofText h
  rw [hdecode] at hyields
  have hrun : format.reader.run (.ofText text) = .ok (c, .finish stop) := hyields
  rw [read, hrun]

theorem load_of_decode {v : Value} {text : String} {c : Contents} (h : v.SpelledAs text)
    (hdecode : decode v = some c) (path : Path) :
    load path text = .ok (c.declarations.map fun d => { d with source := sourcePath path c.source }) :=
  load_of_read (read_of_decode h hdecode) path

/-- A text is refused, in the name of its path, if the value that it spells is
    no manifest. -/
theorem load_of_decode_eq_none {v : Value} {text : String} (h : v.SpelledAs text)
    (hdecode : decode v = none) (path : Path) :
    ∃ message, load path text = .error (.declarationSource path message) := by
  obtain ⟨stop, hyields⟩ := run_ofText h
  rw [hdecode] at hyields
  obtain ⟨fault, hfault⟩ := hyields
  have hread : read text = .error fault := by rw [read, hfault]
  exact ⟨fault.message text, load_of_read_eq_error hread path⟩

end ClassAtlas.Manifest
