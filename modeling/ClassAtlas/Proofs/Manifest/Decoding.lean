import ClassAtlas.Manifest.Reader
import ClassAtlas.Proofs.Manifest.Lexing

/-! # Reading is decoding

    What a reader makes of a tape depends on the value that the tape shows and
    on nothing else.  A reader *follows* a decoder if, wherever a value is
    shown, it succeeds just when the decoder does, with the same result, and
    then stands right after the value.  The readers of lists and records follow
    the decoders that are put together in the same way from those of their
    parts.
-/

namespace ClassAtlas.Manifest

/-! ## What a tape shows -/

namespace Tape

/-- Every list of lexemes is shown by some tape. -/
theorem exists_shows (ls : List Lexeme) (rest : Tape) : ∃ t, Shows ls t rest := by
  induction ls with
  | nil => exact ⟨rest, .nil⟩
  | cons l ls ih =>
    obtain ⟨t, ht⟩ := ih
    cases l with
    | number n => exact ⟨.broken 0 false ⟨.endOfValue, 0⟩, .broken⟩
    | mark | null | bool | text => exact ⟨.token 0 0 _ t, .token rfl ht⟩

/-- Between two lists of lexemes lies a tape. -/
theorem Shows.split {front back : List Lexeme} {t rest : Tape} (h : Shows (front ++ back) t rest) :
    ∃ mid, Shows front t mid ∧ Shows back mid rest := by
  induction front generalizing t with
  | nil => exact ⟨t, .nil, h⟩
  | cons l front ih =>
    cases h with
    | token hl hrest =>
      obtain ⟨mid, hfront, hback⟩ := ih hrest
      exact ⟨mid, .token hl hfront, hback⟩
    -- behind a number the tape is anything, so any tape that shows the rest will do
    | number =>
      obtain ⟨mid, hback⟩ := exists_shows back rest
      exact ⟨mid, .number, hback⟩
    | broken =>
      obtain ⟨mid, hback⟩ := exists_shows back rest
      exact ⟨mid, .broken, hback⟩

theorem Shows.mark {m : Mark} {ls : List Lexeme} {t rest : Tape}
    (h : Shows (.mark m :: ls) t rest) :
    ∃ start stop after, t = .token start stop (.mark m) after ∧ Shows ls after rest := by
  cases h with
  | token hl hrest =>
    cases hl
    exact ⟨_, _, _, rfl, hrest⟩

theorem Shows.text {s : String} {ls : List Lexeme} {t rest : Tape}
    (h : Shows (.text s :: ls) t rest) :
    ∃ start stop after, t = .token start stop (.text s) after ∧ Shows ls after rest := by
  cases h with
  | token hl hrest =>
    cases hl
    exact ⟨_, _, _, rfl, hrest⟩

/-- How the tape of a value starts. -/
inductive Fronts (rest : Tape) : Value → Tape → Prop where
  | null {start stop : Nat} : Fronts rest .null (.token start stop .null rest)
  | bool {start stop : Nat} {b : Bool} : Fronts rest (.bool b) (.token start stop (.bool b) rest)
  | text {start stop : Nat} {s : String} : Fronts rest (.text s) (.token start stop (.text s) rest)
  | number {start stop : Nat} {n : Numeral} {m : Number} {after : Tape} :
      Fronts rest (.number n) (.token start stop (.number m) after)
  | broken {start : Nat} {n : Numeral} {fault : Fault} :
      Fronts rest (.number n) (.broken start false fault)
  | list {start stop : Nat} {vs : List Value} {after : Tape} :
      Shows (itemLexemes true vs ++ [.mark .closeList]) after rest →
      Fronts rest (.list vs) (.token start stop (.mark .openList) after)
  | object {start stop : Nat} {fields : List (String × Value)} {after : Tape} :
      Shows (fieldLexemes true fields ++ [.mark .closeObject]) after rest →
      Fronts rest (.object fields) (.token start stop (.mark .openObject) after)

theorem Shows.fronts {v : Value} {t rest : Tape} (h : Shows v.lexemes t rest) :
    Fronts rest v t := by
  cases v with
  | null | bool | text =>
    cases h with
    | token hl hnil =>
      cases hl
      cases hnil
      constructor
  | number n =>
    cases h with
    | token hl _ => cases hl
    | number => exact .number
    | broken => exact .broken
  | list vs =>
    obtain ⟨start, stop, after, rfl, hvs⟩ := Shows.mark h
    exact .list hvs
  | object fields =>
    obtain ⟨start, stop, after, rfl, hfields⟩ := Shows.mark h
    exact .object hfields

end Tape

open Tape

theorem nextItem_first {v : Value} {t rest : Tape} (h : Fronts rest v t) :
    nextItem true t = .ok (.more t) := by
  cases h <;> rfl

theorem nextItem_comma {v : Value} {t rest : Tape} (h : Fronts rest v t) (start stop : Nat) :
    nextItem false (.token start stop (.mark .comma) t) = .ok (.more t) := by
  cases h <;> rfl

/-- The next item of a list stands behind its comma. -/
theorem nextItem_shows {isFirst : Bool} {v : Value} {ls : List Lexeme} {t rest : Tape}
    (h : Shows (separator isFirst ++ (v.lexemes ++ ls)) t rest) :
    ∃ start after, nextItem isFirst t = .ok (.more start) ∧ Shows v.lexemes start after
      ∧ Shows ls after rest := by
  cases isFirst with
  | true =>
    have hvalue : Shows (v.lexemes ++ ls) t rest := h
    obtain ⟨after, hv, hrest⟩ := hvalue.split
    exact ⟨t, after, nextItem_first hv.fronts, hv, hrest⟩
  | false =>
    obtain ⟨start, stop, next, rfl, hnext⟩ := Shows.mark h
    have hvalue : Shows (v.lexemes ++ ls) next rest := hnext
    obtain ⟨after, hv, hrest⟩ := hvalue.split
    exact ⟨next, after, nextItem_comma hv.fronts start stop, hv, hrest⟩

theorem nextItem_close {isFirst : Bool} {start stop : Nat} {rest : Tape} :
    nextItem isFirst (.token start stop (.mark .closeList) rest) = .ok (.close stop rest) := rfl

/-- The next key of an object stands behind its comma. -/
theorem nextKey_shows {isFirst : Bool} {name : String} {ls : List Lexeme} {t rest : Tape}
    (h : Shows (separator isFirst ++ (.text name :: ls)) t rest) :
    ∃ after, nextKey isFirst t = .ok (.more (name, after)) ∧ Shows ls after rest := by
  cases isFirst with
  | true =>
    obtain ⟨start, stop, after, rfl, hrest⟩ := Shows.text h
    exact ⟨after, rfl, hrest⟩
  | false =>
    obtain ⟨start, stop, next, rfl, hnext⟩ := Shows.mark h
    obtain ⟨start', stop', after, rfl, hrest⟩ := hnext.text
    exact ⟨after, rfl, hrest⟩

/-! ## Following a decoder -/

/-- The outcome of a reading that should give `a?` and stop at `rest`, or fail
    if there is nothing to give. -/
def Yields {α : Type} (rest : Tape) (a? : Option α) (outcome : Except Fault (α × Tape)) : Prop :=
  match a? with
  | some a => outcome = .ok (a, rest)
  | none => ∃ fault, outcome = .error fault

namespace Yields

variable {α β : Type} {mid rest : Tape} {a? : Option α} {outcome : Except Fault (α × Tape)}

theorem map (h : Yields rest a? outcome) (f : α → β) :
    Yields rest (a?.map f) (outcome.map fun (a, r) => (f a, r)) := by
  cases a? with
  | some a =>
    have hok : outcome = .ok (a, rest) := h
    rw [hok]
    rfl
  | none =>
    obtain ⟨fault, hfault⟩ := h
    rw [hfault]
    exact ⟨fault, rfl⟩

/-- A reading that goes on where the one before it stopped. -/
theorem bind (h : Yields mid a? outcome) {f : α → Option β}
    {next : α × Tape → Except Fault (β × Tape)} (hnext : ∀ a, Yields rest (f a) (next (a, mid))) :
    Yields rest (a?.bind f) (outcome.bind next) := by
  cases a? with
  | some a =>
    have hok : outcome = .ok (a, mid) := h
    rw [hok]
    exact hnext a
  | none =>
    obtain ⟨fault, hfault⟩ := h
    rw [hfault]
    exact ⟨fault, rfl⟩

end Yields

/-- The reader agrees with a decoder of values. -/
def Reader.Follows {α : Type} (reader : Reader α) (decode : Value → Option α) : Prop :=
  ∀ {v : Value} {t rest : Tape}, Shows v.lexemes t rest → Yields rest (decode v) (reader.run t)

namespace Value

def text? : Value → Option String
  | .text s => some s
  | _ => none

def bool? : Value → Option Bool
  | .bool b => some b
  | _ => none

/-- What a name stands for, written as a text or as the only field of an object
    that holds `null`. -/
def choice? {α : Type} (options : List (String × α)) : Value → Option α
  | .text name => options.lookup name
  | .object [(name, .null)] => options.lookup name
  | _ => none

def list? {α : Type} (decode : Value → Option α) : Value → Option (List α)
  | .list vs => vs.mapM decode
  | _ => none

end Value

namespace Reader

variable {α β : Type}

/-! ## Single values -/

theorem text_follows (expected : String) : (text expected).Follows Value.text? := by
  intro v t rest h
  cases h.fronts with
  | text => rfl
  | null | bool | number | broken | list | object => exact ⟨_, rfl⟩

theorem bool_follows : bool.Follows Value.bool? := by
  intro v t rest h
  cases h.fronts with
  | bool => rfl
  | null | text | number | broken | list | object => exact ⟨_, rfl⟩

theorem choose_eq (options : List (String × α)) (name : String) (stop : Nat) :
    (∃ a, options.lookup name = some a ∧ choose options name stop = .ok a)
      ∨ (options.lookup name = none ∧ ∃ fault, choose options name stop = .error fault) := by
  unfold choose
  cases options.lookup name with
  | some a => exact .inl ⟨a, rfl, rfl⟩
  | none => exact .inr ⟨rfl, _, rfl⟩

theorem map_follows {reader : Reader α} {decode : Value → Option α} (h : reader.Follows decode)
    (f : α → β) : (reader.map f).Follows fun v => (decode v).map f := by
  intro v t rest hv
  exact (h hv).map f

/-- After a name in an object only `null` and the end of the object may stand. -/
theorem closeVariant_shows {v : Value} {fields : List (String × Value)} {t rest : Tape}
    (h : Shows (.mark .colon :: (v.lexemes ++ (fieldLexemes false fields ++ [.mark .closeObject])))
      t rest) :
    (v = .null ∧ fields = [] ∧ closeVariant t = .ok rest)
      ∨ (¬ (v = .null ∧ fields = []) ∧ ∃ fault, closeVariant t = .error fault) := by
  obtain ⟨start, stop, next, rfl, hnext⟩ := h.mark
  obtain ⟨after, hv, hrest⟩ := hnext.split
  cases hv.fronts with
  | null =>
    cases fields with
    | nil =>
      obtain ⟨start, stop, last, rfl, hnil⟩ := Shows.mark hrest
      cases hnil
      exact .inl ⟨rfl, rfl, rfl⟩
    | cons field fields =>
      obtain ⟨start, stop, more, rfl, _⟩ := Shows.mark hrest
      exact .inr ⟨nofun, _, rfl⟩
  | bool | text | number | broken | list | object => exact .inr ⟨nofun, _, rfl⟩

theorem choice?_object {options : List (String × α)} {name : String} {v : Value}
    {fields : List (String × Value)}
    (h : options.lookup name = none ∨ ¬ (v = .null ∧ fields = [])) :
    Value.choice? options (.object ((name, v) :: fields)) = none := by
  unfold Value.choice?
  split
  · next heq => cases heq
  · next heq =>
    cases heq
    rcases h with hlookup | hother
    · exact hlookup
    · exact absurd ⟨rfl, rfl⟩ hother
  · rfl

theorem choice_follows (options : List (String × α)) :
    (choice options).Follows (Value.choice? options) := by
  intro v t rest h
  show Yields rest _ (choiceFrom options t)
  cases h.fronts with
  | @text start stop name =>
    rcases choose_eq options name stop with ⟨a, hlookup, hchoose⟩ | ⟨hlookup, fault, hchoose⟩
    · simp only [Value.choice?, hlookup, Yields, choiceFrom, hchoose]
    · simp only [Value.choice?, hlookup, Yields, choiceFrom, hchoose]
      exact ⟨fault, rfl⟩
  | @object start stop fields next hfields =>
    cases fields with
    | nil =>
      obtain ⟨start, stop, after, rfl, _⟩ := Shows.mark hfields
      exact ⟨_, rfl⟩
    | cons field fields =>
      obtain ⟨name, v⟩ := field
      have hkey : Shows (.text name :: .mark .colon
          :: (v.lexemes ++ (fieldLexemes false fields ++ [.mark .closeObject]))) next rest := by
        simpa [fieldLexemes, separator] using hfields
      obtain ⟨start, stop, after, rfl, hafter⟩ := hkey.text
      rcases choose_eq options name stop with ⟨a, hlookup, hchoose⟩ | ⟨hlookup, fault, hchoose⟩
      · rcases closeVariant_shows hafter with ⟨rfl, rfl, hclose⟩ | ⟨hother, fault, hclose⟩
        · simp only [Value.choice?, hlookup, Yields, choiceFrom, hchoose, hclose]
        · rw [choice?_object (.inr hother)]
          simp only [Yields, choiceFrom, hchoose, hclose]
          exact ⟨fault, rfl⟩
      · rw [choice?_object (.inl hlookup)]
        simp only [Yields, choiceFrom, hchoose]
        exact ⟨fault, rfl⟩
  | null | bool | number | broken | list => exact ⟨_, rfl⟩

/-! ## Lists -/

theorem items_close {item : Reader α} {isFirst : Bool} {t rest : Tape} {stop : Nat}
    (h : nextItem isFirst t = .ok (.close stop rest)) : items item isFirst t = .ok ([], rest) := by
  rw [items]
  split
  · next hn => rw [h] at hn; cases hn
  · next hn => rw [h] at hn; cases hn; rfl
  · next hn => rw [h] at hn; cases hn

theorem items_more {item : Reader α} {isFirst : Bool} {t start : Tape}
    (h : nextItem isFirst t = .ok (.more start)) :
    items item isFirst t
      = (item.run start).bind fun (a, after) =>
          (items item false after).map fun (as, rest) => (a :: as, rest) := by
  rw [items]
  split
  · next hn => rw [h] at hn; cases hn
  · next hn => rw [h] at hn; cases hn
  · next hn =>
    rw [h] at hn
    cases hn
    split
    · next hi => rw [hi]; rfl
    · next a after hi =>
      simp only [hi, Except.bind]
      cases items item false after <;> rfl

theorem items_follow {item : Reader α} {decode : Value → Option α} (h : item.Follows decode)
    {isFirst : Bool} {vs : List Value} {t rest : Tape}
    (hvs : Shows (itemLexemes isFirst vs ++ [.mark .closeList]) t rest) :
    Yields rest (vs.mapM decode) (items item isFirst t) := by
  -- along the values, not along the tape: what a number leaves of it is unknown
  induction vs generalizing isFirst t with
  | nil =>
    obtain ⟨start, stop, after, rfl, hnil⟩ := Shows.mark hvs
    cases hnil
    rw [items_close nextItem_close]
    rfl
  | cons v vs ih =>
    have hitem : Shows (separator isFirst
        ++ (v.lexemes ++ (itemLexemes false vs ++ [.mark .closeList]))) t rest := by
      simpa [itemLexemes] using hvs
    obtain ⟨start, after, hnext, hv, hrest⟩ := nextItem_shows hitem
    rw [items_more hnext, List.mapM_cons]
    apply Yields.bind (h hv)
    intro a
    have htail := (ih hrest).map (a :: ·)
    rw [Option.map_eq_bind] at htail
    exact htail

theorem list_follows {item : Reader α} {decode : Value → Option α} (h : item.Follows decode) :
    item.list.Follows (Value.list? decode) := by
  intro v t rest hv
  show Yields rest _ (listFrom item t)
  cases hv.fronts with
  | list hvs => exact items_follow h hvs
  | null | bool | text | number | broken | object => exact ⟨_, rfl⟩

end Reader

/-! ## Records -/

namespace RecordFormat

variable {δ α : Type} (format : RecordFormat δ α) (decoders : String → Value → Option (δ → δ))

/-- The record of a draft, if it has what is required. -/
def build? (draft : δ) : Option α := (format.build draft).toOption

/-- The record of an object's fields that come after those in the draft. -/
def decodeFields : δ → List (String × Value) → Option α
  | draft, [] => format.build? draft
  | draft, (name, v) :: fields =>
    match format.fields.find? (·.name == name) with
    | none => none
    | some field =>
      if field.isSeen draft then none
      else (decoders name v).bind fun put => decodeFields (put draft) fields

/-- The record of a list's items that stand for the given fields. -/
def decodeItems : List (Field δ) → δ → List Value → Option α
  | [], draft, [] => format.build? draft
  | [], _, _ :: _ => none
  | field :: fields, draft, [] =>
    if field.isRequired then none else decodeItems fields draft []
  | field :: fields, draft, v :: vs =>
    (decoders field.name v).bind fun put => decodeItems fields (put draft) vs

/-- The record that a value writes, as an object or as a list. -/
def decode : Value → Option α
  | .object fields => format.decodeFields decoders format.blank fields
  | .list vs => format.decodeItems decoders format.fields format.blank vs
  | _ => none

/-- Every field is read as its decoder says. -/
def FieldsFollow : Prop := ∀ field ∈ format.fields, field.reader.Follows (decoders field.name)

variable {format decoders}

theorem build?_eq_some {draft : δ} {a : α} :
    format.build? draft = some a ↔ format.build draft = .ok a := by
  unfold build?
  cases format.build draft with
  | error name => exact ⟨nofun, nofun⟩
  | ok b => exact ⟨fun h => congrArg _ (Option.some.inj h), fun h => congrArg _ (Except.ok.inj h)⟩

theorem finish_yields (draft : δ) (stop : Nat) (rest : Tape) :
    Yields rest (format.build? draft) ((format.finish draft stop).map (·, rest)) := by
  unfold build? finish
  cases format.build draft with
  | ok a => rfl
  | error name => exact ⟨_, rfl⟩

theorem readFields_close {isFirst : Bool} {draft : δ} {t rest : Tape} {stop : Nat}
    (h : nextKey isFirst t = .ok (.close stop rest)) :
    format.readFields isFirst draft t = (format.finish draft stop).map (·, rest) := by
  rw [readFields]
  split
  · next hk => rw [h] at hk; cases hk
  · next hk =>
    rw [h] at hk
    cases hk
    cases format.finish draft stop <;> rfl
  · next hk => rw [h] at hk; cases hk

/-- What becomes of a field whose key has been taken. -/
theorem readFields_more {isFirst : Bool} {draft : δ} {t after : Tape} {name : String}
    (h : nextKey isFirst t = .ok (.more (name, after))) :
    format.readFields isFirst draft t
      = match format.fields.find? (·.name == name) with
        | none => fail (.unknownField name format.names) (afterKey after)
        | some field =>
          if field.isSeen draft then fail (.duplicateField name) (afterKey after)
          else (skipColon after).bind fun value =>
            (field.reader.run value).bind fun (put, rest) =>
              format.readFields false (put draft) rest := by
  rw [readFields]
  split
  · next hk => rw [h] at hk; cases hk
  · next hk => rw [h] at hk; cases hk
  · next hk =>
    rw [h] at hk
    cases hk
    cases format.fields.find? (·.name == name) with
    | none => rfl
    | some field =>
      simp only
      split
      · rfl
      · cases hc : skipColon after with
        | error fault => rfl
        | ok value =>
          simp only [Except.bind]
          cases field.reader.run value <;> rfl

/-- A key is followed by a colon. -/
theorem readFields_key {isFirst : Bool} {draft : δ} {t value : Tape} {name : String}
    {start stop : Nat}
    (h : nextKey isFirst t = .ok (.more (name, .token start stop (.mark .colon) value))) :
    format.readFields isFirst draft t
      = match format.fields.find? (·.name == name) with
        | none => fail (.unknownField name format.names) start
        | some field =>
          if field.isSeen draft then fail (.duplicateField name) start
          else (field.reader.run value).bind fun (put, rest) =>
            format.readFields false (put draft) rest := readFields_more h

theorem readFields_follow (h : format.FieldsFollow decoders) {isFirst : Bool} {draft : δ}
    {fields : List (String × Value)} {t rest : Tape}
    (hfields : Shows (fieldLexemes isFirst fields ++ [.mark .closeObject]) t rest) :
    Yields rest (format.decodeFields decoders draft fields) (format.readFields isFirst draft t) := by
  induction fields generalizing isFirst draft t with
  | nil =>
    obtain ⟨start, stop, after, rfl, hnil⟩ := Shows.mark hfields
    cases hnil
    rw [readFields_close rfl]
    exact finish_yields draft stop rest
  | cons field fields ih =>
    obtain ⟨name, v⟩ := field
    have hkey : Shows (separator isFirst ++ (.text name :: .mark .colon
        :: (v.lexemes ++ (fieldLexemes false fields ++ [.mark .closeObject])))) t rest := by
      simpa [fieldLexemes] using hfields
    obtain ⟨after, hnext, hafter⟩ := nextKey_shows hkey
    obtain ⟨start, stop, value, rfl, hvalue⟩ := hafter.mark
    obtain ⟨last, hv, hrest⟩ := hvalue.split
    rw [readFields_key hnext, decodeFields]
    -- a name that is unknown or there already is at fault before its value is read
    cases hfind : format.fields.find? (·.name == name) with
    | none => exact ⟨_, rfl⟩
    | some found =>
      have hname : found.name = name := by simpa using List.find?_some hfind
      simp only
      by_cases hseen : found.isSeen draft
      · rw [if_pos hseen, if_pos hseen]
        exact ⟨_, rfl⟩
      · rw [if_neg hseen, if_neg hseen]
        have hread := h found (List.mem_of_find?_eq_some hfind) hv
        rw [hname] at hread
        exact hread.bind fun put => ih hrest

/-- A record that is written as a list has no item after its last field. -/
theorem closeItems_more {isFirst : Bool} {v : Value} {ls : List Lexeme} {t rest : Tape}
    (h : Shows (separator isFirst ++ (v.lexemes ++ ls)) t rest) :
    ∃ fault, closeItems t = .error fault := by
  cases isFirst with
  | true =>
    have hvalue : Shows (v.lexemes ++ ls) t rest := h
    obtain ⟨after, hv, _⟩ := hvalue.split
    cases hv.fronts <;> exact ⟨_, rfl⟩
  | false =>
    obtain ⟨start, stop, next, rfl, hnext⟩ := Shows.mark h
    have hvalue : Shows (v.lexemes ++ ls) next rest := hnext
    obtain ⟨after, hv, _⟩ := hvalue.split
    cases hv.fronts <;> exact ⟨_, rfl⟩

theorem readItems_more {field : Field δ} {fields : List (Field δ)} {count : Nat} {draft : δ}
    {t start : Tape} (h : nextItem (count == 0) t = .ok (.more start)) :
    format.readItems (field :: fields) count draft t
      = (field.reader.run start).bind fun (put, rest) =>
          format.readItems fields (count + 1) (put draft) rest := by
  simp only [readItems, h]
  cases field.reader.run start <;> rfl

theorem readItems_follow {fields : List (Field δ)}
    (h : ∀ field ∈ fields, field.reader.Follows (decoders field.name)) {count : Nat} {draft : δ}
    {vs : List Value} {t rest : Tape}
    (hvs : Shows (itemLexemes (count == 0) vs ++ [.mark .closeList]) t rest) :
    Yields rest (format.decodeItems decoders fields draft vs)
      (format.readItems fields count draft t) := by
  induction fields generalizing count draft vs t with
  | nil =>
    cases vs with
    | nil =>
      obtain ⟨start, stop, after, rfl, hnil⟩ := Shows.mark hvs
      cases hnil
      have hread : format.readItems [] count draft (.token start stop (.mark .closeList) rest)
          = (format.finish draft stop).map (·, rest) := by
        have hclose : closeItems (.token start stop (.mark .closeList) rest) = .ok (stop, rest) :=
          rfl
        simp only [readItems, hclose]
        cases format.finish draft stop <;> rfl
      rw [hread, decodeItems]
      exact finish_yields draft stop rest
    | cons v vs =>
      have hmore : Shows (separator (count == 0)
          ++ (v.lexemes ++ (itemLexemes false vs ++ [.mark .closeList]))) t rest := by
        simpa [itemLexemes] using hvs
      obtain ⟨fault, hfault⟩ := closeItems_more hmore
      refine ⟨fault, ?_⟩
      rw [readItems, hfault]
  | cons field fields ih =>
    have hfields : ∀ f ∈ fields, f.reader.Follows (decoders f.name) :=
      fun f hf => h f (List.mem_cons_of_mem _ hf)
    cases vs with
    | nil =>
      obtain ⟨start, stop, after, rfl, hnil⟩ := Shows.mark hvs
      cases hnil
      rw [readItems, nextItem_close, decodeItems]
      by_cases hrequired : field.isRequired
      · simp only [if_pos hrequired]
        exact ⟨_, rfl⟩
      · simp only [if_neg hrequired]
        -- the closing mark stays for the fields after this one
        exact ih hfields (.token rfl .nil)
    | cons v vs =>
      have hmore : Shows (separator (count == 0)
          ++ (v.lexemes ++ (itemLexemes false vs ++ [.mark .closeList]))) t rest := by
        simpa [itemLexemes] using hvs
      obtain ⟨start, after, hnext, hv, hrest⟩ := nextItem_shows hmore
      rw [readItems_more hnext, decodeItems]
      exact (h field List.mem_cons_self hv).bind fun put => ih hfields hrest

/-- The reader of a record follows the decoder put together from those of its
    fields. -/
theorem reader_follows (h : format.FieldsFollow decoders) :
    format.reader.Follows (format.decode decoders) := by
  intro v t rest hv
  show Yields rest _ (format.recordFrom t)
  cases hv.fronts with
  | object hfields => exact readFields_follow h hfields
  | list hvs => exact readItems_follow h hvs
  | null | bool | text | number | broken => exact ⟨_, rfl⟩

end RecordFormat

end ClassAtlas.Manifest
