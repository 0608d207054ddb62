import ClassAtlas.Manifest.Scan

/-! # Tapes

    The tokens of a manifest text in order, each with the places where it
    starts and stops.  A tape goes on as far as the text is made of tokens: to
    its end, to a token that cannot be finished, or to a character that starts
    none.  Whether tokens make sense together is decided by those who read the
    tape.
-/

namespace ClassAtlas.Manifest

/-! ## Tokens -/

inductive Mark where
  | openObject
  | closeObject
  | openList
  | closeList
  | comma
  | colon
  deriving DecidableEq, Repr

inductive Token where
  | mark (m : Mark)
  | null
  | bool (value : Bool)
  | number (value : Number)
  | text (value : String)
  deriving DecidableEq, Repr

inductive Tape where
  | token (start stop : Nat) (value : Token) (rest : Tape)
  /-- A token that cannot be finished, and whether it is a quoted text. -/
  | broken (start : Nat) (isText : Bool) (fault : Fault)
  /-- A character that starts no token. -/
  | stray (start : Nat)
  | finish (offset : Nat)
  deriving DecidableEq, Repr

/-! ## Taking a text apart -/

def mark? (c : Char) : Option Mark :=
  if c = '\x7b' then some .openObject
  else if c = '\x7d' then some .closeObject
  else if c = '[' then some .openList
  else if c = ']' then some .closeList
  else if c = ',' then some .comma
  else if c = ':' then some .colon
  else none

/-- The word that starts with a letter: its other letters, and the token. -/
def word? (c : Char) : Option (List Char × Token) :=
  if c = 'n' then some (['u', 'l', 'l'], .null)
  else if c = 't' then some (['r', 'u', 'e'], .bool true)
  else if c = 'f' then some (['a', 'l', 's', 'e'], .bool false)
  else none

/-- The characters that may stand between tokens. -/
def isBlank (c : Char) : Bool := c == ' ' || c == '\t' || c == '\n' || c == '\r'

/-- The token that starts with `c`, if that character starts one. -/
def scanToken? (offset : Nat) (c : Char) (rest : List Char) :
    Option (Except Fault (Scan Token)) :=
  match mark? c with
  | some m => some (.ok ⟨.mark m, offset + 1, rest⟩)
  | none =>
    match word? c with
    | some (word, token) => some ((scanWord (offset + 1) word rest).map fun s => ⟨token, s.stop, s.rest⟩)
    | none =>
      if c = '\"' then
        some ((scanText (offset + 1) rest).map fun s => ⟨.text (String.ofList s.value), s.stop, s.rest⟩)
      else if c = '-' then
        some ((scanNumber true (offset + 1) rest).map fun s => ⟨.number s.value, s.stop, s.rest⟩)
      else if c.isDigit then
        some ((scanNumber false offset (c :: rest)).map fun s => ⟨.number s.value, s.stop, s.rest⟩)
      else none

theorem map_eq_ok {ε α β : Type} {f : α → β} {x : Except ε α} {b : β} (h : x.map f = .ok b) :
    ∃ a, x = .ok a ∧ f a = b := by
  cases x with
  | error e => cases h
  | ok a => exact ⟨a, rfl, Except.ok.inj h⟩

theorem length_scanToken? {offset : Nat} {c : Char} {rest : List Char} {s : Scan Token}
    (h : scanToken? offset c rest = some (.ok s)) : s.rest.length ≤ rest.length := by
  unfold scanToken? at h
  split at h
  · cases h; exact Nat.le_refl _
  · split at h
    · obtain ⟨w, hw, rfl⟩ := map_eq_ok (Option.some.inj h)
      exact length_scanWord hw
    · split at h
      · obtain ⟨t, ht, rfl⟩ := map_eq_ok (Option.some.inj h)
        exact Nat.le_of_lt (length_scanText ht)
      · split at h
        · obtain ⟨n, hn, rfl⟩ := map_eq_ok (Option.some.inj h)
          exact Nat.le_of_lt (length_scanNumber hn)
        · split at h
          · obtain ⟨n, hn, rfl⟩ := map_eq_ok (Option.some.inj h)
            exact Nat.le_of_lt_succ (length_scanNumber hn)
          · cases h

namespace Tape

/-- The tape of the characters that follow `offset` bytes. -/
def ofChars (offset : Nat) (cs : List Char) : Tape :=
  match cs with
  | [] => .finish offset
  | c :: rest =>
    if isBlank c then ofChars (offset + 1) rest
    else
      match h : scanToken? offset c rest with
      | none => .stray offset
      | some (.error fault) => .broken offset (c == '\"') fault
      | some (.ok s) =>
        have := length_scanToken? h
        .token offset s.stop s.value (ofChars s.stop s.rest)
  termination_by cs.length

/-- The tape of a text. -/
def ofText (contents : String) : Tape := ofChars 0 contents.toList

/-! ## Places -/

/-- Where the next token starts, or the text ends. -/
def start : Tape → Nat
  | .token start _ _ _ => start
  | .broken start _ _ => start
  | .stray start => start
  | .finish offset => offset

/-- The place of a fault that is seen from the next byte, which counts as read. -/
def peeked : Tape → Nat
  | .finish offset => offset
  | tape => tape.start + 1

/-- How many tokens are left. -/
def length : Tape → Nat
  | .token _ _ _ rest => rest.length + 1
  | _ => 0

end Tape

end ClassAtlas.Manifest
