import ClassAtlas.Manifest.Tape

/-! # Readers

    A reader takes a value of one kind from the front of a tape, or says why
    there is none.  Readers of lists and records are put together from those of
    their parts.

    A record is written as an object, its fields in any order, or as the list
    of its fields in their own order.  Either way every field is read once at
    most, only fields that may be left out are left out, and nothing but fields
    is there.  The first fault from the left is the one that is reported.
-/

namespace ClassAtlas.Manifest

/-- Takes a value from a tape and hands on the rest, which is shorter. -/
structure Reader (α : Type) where
  run : Tape → Except Fault (α × Tape)
  shorter : ∀ {t : Tape} {a : α} {r : Tape}, run t = .ok (a, r) → r.length < t.length

/-! ## Between values -/

/-- What stands where a value of another kind is expected. -/
def wrongKind (expected : String) : Tape → Fault
  | .token start stop value _ =>
    match value with
    | .null => ⟨.wrongKind .null expected, stop⟩
    | .bool b => ⟨.wrongKind (.bool b) expected, stop⟩
    | .number n => ⟨.wrongKind (.number n) expected, stop⟩
    | .text s => ⟨.wrongKind (.text s) expected, stop⟩
    | .mark .openList => ⟨.wrongKind .list expected, start⟩
    | .mark .openObject => ⟨.wrongKind .object expected, start⟩
    | .mark _ => ⟨.expectedValue, start + 1⟩
  | .broken _ _ fault => fault
  | .stray start => ⟨.expectedValue, start + 1⟩
  | .finish offset => ⟨.endOfValue, offset⟩

/-- What follows inside a list or object: its end, or one more part. -/
inductive Next (α : Type) where
  | close (stop : Nat) (rest : Tape)
  | more (part : α)

/-- The start of the next item of a list; before all but the first stands a comma. -/
def nextItem (isFirst : Bool) : Tape → Except Fault (Next Tape)
  | .finish offset => fail .endOfList offset
  | .token _ stop (.mark .closeList) rest => .ok (.close stop rest)
  | tape =>
    if isFirst then .ok (.more tape)
    else
      match tape with
      | .token _ _ (.mark .comma) rest =>
        match rest with
        | .token start _ (.mark .closeList) _ => fail .trailingComma (start + 1)
        | .finish offset => fail .endOfValue offset
        | rest => .ok (.more rest)
      | tape => fail .expectedListGap tape.peeked

/-- A key at the front of a tape. -/
def takeKey : Tape → Except Fault (Next (String × Tape))
  | .token _ _ (.text name) rest => .ok (.more (name, rest))
  | .broken _ true fault => .error fault
  | tape => fail .keyIsNoText tape.peeked

/-- The next key of an object; before all but the first stands a comma. -/
def nextKey (isFirst : Bool) : Tape → Except Fault (Next (String × Tape))
  | .finish offset => fail .endOfObject offset
  | .token _ stop (.mark .closeObject) rest => .ok (.close stop rest)
  | tape =>
    if isFirst then takeKey tape
    else
      match tape with
      | .token _ _ (.mark .comma) rest =>
        match rest with
        | .token start _ (.mark .closeObject) _ => fail .trailingComma (start + 1)
        | .finish offset => fail .endOfValue offset
        | rest => takeKey rest
      | tape => fail .expectedObjectGap tape.peeked

/-- The tape after a colon. -/
def skipColon : Tape → Except Fault Tape
  | .token _ _ (.mark .colon) rest => .ok rest
  | .finish offset => fail .endOfObject offset
  | tape => fail .expectedColon tape.peeked

/-- The place of a fault of the key just taken: the next token, or the end of
    the object if that is next. -/
def afterKey : Tape → Nat
  | .token _ stop (.mark .closeObject) _ => stop
  | tape => tape.start

theorem length_nextItem_close {isFirst : Bool} {t r : Tape} {stop : Nat}
    (h : nextItem isFirst t = .ok (.close stop r)) : r.length < t.length := by
  unfold nextItem at h
  split at h
  · cases h
  · cases h; exact Nat.lt_succ_self _
  · split at h
    · cases h
    · split at h
      · split at h <;> cases h
      · cases h

theorem length_nextItem_more {isFirst : Bool} {t r : Tape}
    (h : nextItem isFirst t = .ok (.more r)) : r.length ≤ t.length := by
  unfold nextItem at h
  split at h
  · cases h
  · cases h
  · split at h
    · cases h; exact Nat.le_refl _
    · split at h
      · split at h <;> cases h
        exact Nat.le_succ _
      · cases h

theorem length_takeKey_more {t r : Tape} {name : String}
    (h : takeKey t = .ok (.more (name, r))) : r.length < t.length := by
  unfold takeKey at h
  split at h <;> cases h
  exact Nat.lt_succ_self _

theorem takeKey_ne_close {t r : Tape} {stop : Nat} : takeKey t ≠ .ok (.close stop r) := by
  unfold takeKey
  split <;> exact nofun

theorem length_nextKey_close {isFirst : Bool} {t r : Tape} {stop : Nat}
    (h : nextKey isFirst t = .ok (.close stop r)) : r.length < t.length := by
  unfold nextKey at h
  split at h
  · cases h
  · cases h; exact Nat.lt_succ_self _
  · split at h
    · exact absurd h takeKey_ne_close
    · split at h
      · split at h
        · cases h
        · cases h
        · exact absurd h takeKey_ne_close
      · cases h

theorem length_nextKey_more {isFirst : Bool} {t r : Tape} {name : String}
    (h : nextKey isFirst t = .ok (.more (name, r))) : r.length < t.length := by
  unfold nextKey at h
  split at h
  · cases h
  · cases h
  · split at h
    · exact length_takeKey_more h
    · split at h
      · split at h
        · cases h
        · cases h
        · exact Nat.lt_succ_of_lt (length_takeKey_more h)
      · cases h

theorem length_skipColon {t r : Tape} (h : skipColon t = .ok r) : r.length < t.length := by
  unfold skipColon at h
  split at h <;> cases h
  exact Nat.lt_succ_self _

namespace Reader

/-! ## Single values -/

def textFrom (expected : String) : Tape → Except Fault (String × Tape)
  | .token _ _ (.text s) rest => .ok (s, rest)
  | tape => .error (wrongKind expected tape)

/-- A quoted text; `expected` says what it is for. -/
def text (expected : String) : Reader String where
  run := textFrom expected
  shorter h := by
    unfold textFrom at h
    split at h <;> cases h
    exact Nat.lt_succ_self _

def boolFrom : Tape → Except Fault (Bool × Tape)
  | .token _ _ (.bool b) rest => .ok (b, rest)
  | tape => .error (wrongKind "a boolean" tape)

/-- One of `true` and `false`. -/
def bool : Reader Bool where
  run := boolFrom
  shorter h := by
    unfold boolFrom at h
    split at h <;> cases h
    exact Nat.lt_succ_self _

/-- What a name stands for, read up to `stop`. -/
def choose {α : Type} (options : List (String × α)) (name : String) (stop : Nat) :
    Except Fault α :=
  match options.lookup name with
  | some a => .ok a
  | none => fail (.unknownVariant name (options.map (·.1))) stop

/-- The end of an object that holds a name and nothing: after the name. -/
def closeVariant : Tape → Except Fault Tape
  | .token _ _ (.mark .colon) (.token _ _ .null rest) =>
    match rest with
    | .token _ _ (.mark .closeObject) rest => .ok rest
    | .finish offset => fail .endOfObject offset
    | rest => fail .expectedValue rest.start
  | .token _ _ (.mark .colon) rest => .error (wrongKind "unit" rest)
  | .finish offset => fail .endOfObject offset
  | tape => fail .expectedColon tape.peeked

/-- What stands where an object is to hold a name. -/
def noVariant : Tape → Fault
  | .broken _ true fault => fault
  | .finish offset => ⟨.endOfObject, offset⟩
  | .token start _ (.mark .closeObject) _ => ⟨.expectedValue, start + 1⟩
  | tape => ⟨.keyIsNoText, tape.peeked⟩

def choiceFrom {α : Type} (options : List (String × α)) : Tape → Except Fault (α × Tape)
  | .token _ stop (.text name) rest =>
    match choose options name stop with
    | .ok a => .ok (a, rest)
    | .error fault => .error fault
  | .token _ _ (.mark .openObject) (.token _ stop (.text name) rest) =>
    match choose options name stop with
    | .ok a =>
      match closeVariant rest with
      | .ok rest => .ok (a, rest)
      | .error fault => .error fault
    | .error fault => .error fault
  | .token _ _ (.mark .openObject) rest => .error (noVariant rest)
  | .broken _ true fault => .error fault
  | .finish offset => fail .endOfValue offset
  | tape => fail .expectedValue tape.peeked

theorem length_closeVariant {t r : Tape} (h : closeVariant t = .ok r) : r.length < t.length := by
  unfold closeVariant at h
  split at h
  · split at h <;> cases h
    simp only [Tape.length]; omega
  · cases h
  · cases h
  · cases h

/-- One of several names, by itself or as the only key of an object that holds
    `null`. -/
def choice {α : Type} (options : List (String × α)) : Reader α where
  run := choiceFrom options
  shorter h := by
    unfold choiceFrom at h
    split at h
    · split at h <;> cases h
      exact Nat.lt_succ_self _
    · split at h
      · split at h
        · rename_i hc
          cases h
          have := length_closeVariant hc
          simp only [Tape.length]; omega
        · cases h
      · cases h
    · cases h
    · cases h
    · cases h
    · cases h

/-- A value changed after it is read. -/
def map {α β : Type} (f : α → β) (reader : Reader α) : Reader β where
  run t := (reader.run t).map fun (a, r) => (f a, r)
  shorter h := by
    obtain ⟨⟨a, r⟩, hr, he⟩ := map_eq_ok h
    cases he
    exact reader.shorter hr

/-! ## Lists -/

/-- The items from the front of a tape to the end of their list. -/
def items {α : Type} (item : Reader α) (isFirst : Bool) (t : Tape) :
    Except Fault (List α × Tape) :=
  match hn : nextItem isFirst t with
  | .error fault => .error fault
  | .ok (.close _ rest) => .ok ([], rest)
  | .ok (.more start) =>
    match hi : item.run start with
    | .error fault => .error fault
    | .ok (a, rest) =>
      have := length_nextItem_more hn
      have := item.shorter hi
      match items item false rest with
      | .error fault => .error fault
      | .ok (as, rest) => .ok (a :: as, rest)
  termination_by t.length

theorem length_items {α : Type} {item : Reader α} {isFirst : Bool} {t r : Tape} {as : List α}
    (h : items item isFirst t = .ok (as, r)) : r.length < t.length := by
  fun_induction items item isFirst t generalizing as r with
  | case1 => cases h
  | case2 isFirst t stop rest hn => cases h; exact length_nextItem_close hn
  | case3 => cases h
  | case4 => cases h
  | case5 isFirst t start hn a rest hi h1 h2 as' rest' hr ih =>
    cases h
    have := ih hr
    omega

def listFrom {α : Type} (item : Reader α) : Tape → Except Fault (List α × Tape)
  | .token _ _ (.mark .openList) rest => items item true rest
  | tape => .error (wrongKind "a sequence" tape)

/-- A list of values of one kind. -/
def list {α : Type} (item : Reader α) : Reader (List α) where
  run := listFrom item
  shorter h := by
    unfold listFrom at h
    split at h
    · exact Nat.lt_succ_of_lt (length_items h)
    · cases h

end Reader

/-! ## Records -/

/-- A field of a record that is read into drafts of type `δ`. -/
structure Field (δ : Type) where
  name : String
  isRequired : Bool
  /-- Whether a draft has the field already. -/
  isSeen : δ → Bool
  /-- Reads the field's value and puts it into a draft. -/
  reader : Reader (δ → δ)

/-- The shape of a record: how its fields are read, and what becomes of a draft
    that has those that are required. -/
structure RecordFormat (δ α : Type) where
  title : String
  fields : List (Field δ)
  blank : δ
  /-- The record of a draft, or the first required field that it lacks. -/
  build : δ → Except String α

namespace RecordFormat

variable {δ α : Type}

def names (format : RecordFormat δ α) : List String := format.fields.map (·.name)

/-- The record of a draft that was read up to `stop`. -/
def finish (format : RecordFormat δ α) (draft : δ) (stop : Nat) : Except Fault α :=
  match format.build draft with
  | .ok a => .ok a
  | .error name => fail (.missingField name) stop

/-- The fields of an object, from the front of a tape to its end. -/
def readFields (format : RecordFormat δ α) (isFirst : Bool) (draft : δ) (t : Tape) :
    Except Fault (α × Tape) :=
  match hk : nextKey isFirst t with
  | .error fault => .error fault
  | .ok (.close stop rest) =>
    match format.finish draft stop with
    | .error fault => .error fault
    | .ok a => .ok (a, rest)
  | .ok (.more (name, rest)) =>
    match format.fields.find? (·.name == name) with
    | none => fail (.unknownField name format.names) (afterKey rest)
    | some field =>
      if field.isSeen draft then fail (.duplicateField name) (afterKey rest)
      else
        match hc : skipColon rest with
        | .error fault => .error fault
        | .ok value =>
          match hv : field.reader.run value with
          | .error fault => .error fault
          | .ok (put, rest) =>
            have := length_nextKey_more hk
            have := length_skipColon hc
            have := field.reader.shorter hv
            readFields format false (put draft) rest
  termination_by t.length

/-- What may follow the last field of a record that is written as a list. -/
def closeItems : Tape → Except Fault (Nat × Tape)
  | .token _ stop (.mark .closeList) rest => .ok (stop, rest)
  | .token _ _ (.mark .comma) (.token start _ (.mark .closeList) _) =>
    fail .trailingComma (start + 1)
  | .token _ _ (.mark .comma) rest => fail .trailingCharacters rest.peeked
  | .finish offset => fail .endOfList offset
  | tape => fail .trailingCharacters tape.peeked

/-- The fields of a record that is written as a list: those still to come, of
    which `count` came before. -/
def readItems (format : RecordFormat δ α) :
    List (Field δ) → Nat → δ → Tape → Except Fault (α × Tape)
  | [], _, draft, t =>
    match closeItems t with
    | .error fault => .error fault
    | .ok (stop, rest) =>
      match format.finish draft stop with
      | .error fault => .error fault
      | .ok a => .ok (a, rest)
  | field :: fields, count, draft, t =>
    match nextItem (count == 0) t with
    | .error fault => .error fault
    | .ok (.close stop _) =>
      if field.isRequired then
        fail (.tooShort count format.title format.fields.length) stop
      else readItems format fields (count + 1) draft t
    | .ok (.more value) =>
      match field.reader.run value with
      | .error fault => .error fault
      | .ok (put, rest) => readItems format fields (count + 1) (put draft) rest

def recordFrom (format : RecordFormat δ α) : Tape → Except Fault (α × Tape)
  | .token _ _ (.mark .openObject) rest => format.readFields true format.blank rest
  | .token _ _ (.mark .openList) rest => format.readItems format.fields 0 format.blank rest
  | tape => .error (wrongKind format.title tape)

theorem length_readFields {format : RecordFormat δ α} {isFirst : Bool} {draft : δ} {t r : Tape}
    {a : α} (h : format.readFields isFirst draft t = .ok (a, r)) : r.length < t.length := by
  fun_induction readFields format isFirst draft t with
  | case1 => cases h
  | case2 => cases h
  | case3 isFirst draft t stop rest hk => cases h; exact length_nextKey_close hk
  | case4 => cases h
  | case5 => cases h
  | case6 => cases h
  | case7 => cases h
  | case8 isFirst draft t name rest hk field hf hs value hc put rest' hv h1 h2 h3 ih =>
    have := ih h
    omega

theorem length_closeItems {t r : Tape} {stop : Nat} (h : closeItems t = .ok (stop, r)) :
    r.length < t.length := by
  unfold closeItems at h
  split at h <;> cases h
  exact Nat.lt_succ_self _

theorem length_readItems {format : RecordFormat δ α} {fields : List (Field δ)} {count : Nat}
    {draft : δ} {t r : Tape} {a : α} (h : format.readItems fields count draft t = .ok (a, r)) :
    r.length < t.length := by
  induction fields generalizing count draft t with
  | nil =>
    simp only [readItems] at h
    split at h
    · cases h
    · rename_i hc
      split at h <;> cases h
      exact length_closeItems hc
  | cons field fields ih =>
    simp only [readItems] at h
    split at h
    · cases h
    · split at h
      · cases h
      · exact ih h
    · rename_i hn
      split at h
      · cases h
      · rename_i hv
        have := ih h
        have := field.reader.shorter hv
        have := length_nextItem_more hn
        omega

/-- A record of the format. -/
def reader (format : RecordFormat δ α) : Reader α where
  run := format.recordFrom
  shorter h := by
    unfold recordFrom at h
    split at h
    · exact Nat.lt_succ_of_lt (length_readFields h)
    · exact Nat.lt_succ_of_lt (length_readItems h)
    · cases h

end RecordFormat

end ClassAtlas.Manifest
