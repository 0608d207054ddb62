import ClassAtlas.Pattern.Basic
import ClassAtlas.Text.Hex

/-! # Reading patterns

    How patterns are written.  Most characters stand for themselves; the others
    are these, with their neighbours `x` and `y`:

    * `xy`, `x|y`, and `(x)` to group, where `(?<name>x)` gives a name and
      `(?flags:x)` or `(?flags)` changes the flags below,
    * `x?`, `x*`, `x+`, lazy with another `?`,
    * `.` for any character, `^` and `$` for the ends, `[...]` for sets,
    * escapes that start with a backslash.

    A count in braces is not supported, nor are word edges beyond ASCII.
-/

namespace ClassAtlas.Pattern

/-! ## Flags -/

/-- How the characters that follow are read. -/
structure Flags where
  /-- `i`: letters stand for both cases. -/
  caseless : Bool := false
  /-- `m`: the ends are those of lines. -/
  byLine : Bool := false
  /-- `s`: the point stands for line feeds too. -/
  dotAll : Bool := false
  /-- `U`: what is greedy is lazy, and the other way round. -/
  swapped : Bool := false
  /-- `u`: sets hold characters beyond ASCII. -/
  beyondAscii : Bool := true
  /-- `R`: lines may end in a carriage return. -/
  crlf : Bool := false
  /-- `x`: blanks and comments are passed over. -/
  spaced : Bool := false
  deriving DecidableEq, Repr

namespace Flags

/-- Turns one flag on or off, if there is one of that letter. -/
def set? (f : Flags) (letter : Char) (on : Bool) : Option Flags :=
  match letter with
  | 'i' => some { f with caseless := on }
  | 'm' => some { f with byLine := on }
  | 's' => some { f with dotAll := on }
  | 'U' => some { f with swapped := on }
  | 'u' => some { f with beyondAscii := on }
  | 'R' => some { f with crlf := on }
  | 'x' => some { f with spaced := on }
  | _ => none

/-- Reads letters that change flags, up to the sign `:` or `)`: those after a
    minus turn off.  No letter comes twice, and a minus is not the last. -/
def readChange (f : Flags) (seen : List Char) : List Char → Option (Flags × Bool × List Char)
  | [] => none
  | c :: cs =>
    if c = ':' ∨ c = ')' then
      if seen.head? = some '-' then none
      else if c = ')' ∧ seen = [] then none
      else some (f, c == ':', cs)
    else if seen.contains c then none
    else if c = '-' then f.readChange (c :: seen) cs
    else
      match f.set? c (! seen.contains '-') with
      | some f => f.readChange (c :: seen) cs
      | none => none

end Flags

/-! ## Blanks -/

/-- The text without the blanks and comments at its front; a comment goes from
    a hash to the end of the line. -/
def dropBlanks (inComment : Bool) : List Char → List Char
  | [] => []
  | c :: cs =>
    if inComment then dropBlanks (c != '\n') cs
    else if CharProperty.isBlank c then dropBlanks false cs
    else if c = '#' then dropBlanks true cs
    else c :: cs

namespace Flags

/-- The text from the next character that counts. -/
def skip (f : Flags) (cs : List Char) : List Char := if f.spaced then dropBlanks false cs else cs

/-- The next character that counts, as sets look ahead for it: only blanks and
    one hash are passed over. -/
def next? (f : Flags) (cs : List Char) : Option Char :=
  if f.spaced then
    match cs.dropWhile CharProperty.isBlank with
    | '#' :: rest => (rest.dropWhile CharProperty.isBlank).head?
    | rest => rest.head?
  else cs.head?

end Flags

/-! ## Escapes -/

/-- What an escape or a character stands for. -/
inductive Atom where
  | char (c : Char)
  | set (s : CharSet)
  | anchor (a : Anchor)
  deriving DecidableEq, Repr

/-- Letters that stand for controls after a backslash. -/
def controls : List (Char × Char) :=
  [('a', '\x07'), ('f', '\x0C'), ('t', '\t'), ('n', '\n'), ('r', '\r'), ('v', '\x0B')]

/-- Anchors of the text's ends. -/
def endAnchors : List (Char × Anchor) := [('A', .textStart), ('z', .textEnd)]

/-- Anchors that look at words of ASCII. -/
def wordAnchors : List (Char × Anchor) :=
  [('b', .wordEdge), ('B', .notWordEdge), ('<', .wordStart), ('>', .wordEnd)]

/-- The value of hexadecimal digits, of which `count` are read. -/
def readHex (f : Flags) : Nat → Nat → List Char → Option (Nat × List Char)
  | 0, value, cs => some (value, cs)
  | count + 1, value, cs =>
    match cs with
    | [] => none
    | c :: cs =>
      match Hex.value? c with
      | some d => readHex f count (value * 16 + d) (f.skip cs)
      | none => none

/-- The character of a code point that is written in hexadecimal digits.  Two
    digits are a byte, which is a character by itself in ASCII only if sets hold
    no others. -/
def readCodePoint (f : Flags) (count : Nat) (cs : List Char) : Option (Atom × List Char) :=
  match readHex f count 0 (f.skip cs) with
  | some (value, rest) =>
    if ! value.isValidChar then none
    else if count = 2 ∧ 0x7F < value ∧ ! f.beyondAscii then none
    else some (.char (Char.ofNat value), rest)
  | none => none

/-- A set, or all that it does not hold; the latter has characters beyond ASCII. -/
def negated? (f : Flags) (isNegated : Bool) (s : CharSet) : Option CharSet :=
  if isNegated then if f.beyondAscii then some (.complement s) else none
  else some s

/-- A set as the flags have it: with both cases of its letters, then negated. -/
def finishSet? (f : Flags) (isNegated : Bool) (s : CharSet) : Option CharSet :=
  negated? f isNegated <|
    if ! f.caseless then s
    else if f.beyondAscii then .caseless s
    else .caselessAscii s

/-- The set of a letter: digits, blanks or words. -/
def letterSet? (f : Flags) (c : Char) : Option CharSet :=
  match c.toLower with
  | 'd' => negated? f c.isUpper (if f.beyondAscii then .digits else CharSet.asciiDigits)
  | 's' => negated? f c.isUpper (if f.beyondAscii then .blanks else CharSet.asciiBlanks)
  | 'w' => negated? f c.isUpper (if f.beyondAscii then .words else CharSet.asciiWords)
  | _ => none

/-- The set of a general category. -/
def categorySet? (f : Flags) (isNegated : Bool) (c : Char) : Option CharSet :=
  if f.beyondAscii then
    match Category.ofLetter? c with
    | some k => finishSet? f isNegated (.category k)
    | none => none
  else none

/-- Whether a backslash before the character makes it stand for itself. -/
def isEscapable (c : Char) : Bool :=
  c.toNat ≤ 0x7F && ! c.isAlphanum && c != '<' && c != '>'

/-- Reads an escape after its backslash. -/
def readEscape (f : Flags) : List Char → Option (Atom × List Char)
  | [] => none
  | c :: cs =>
    if c = 'x' then readCodePoint f 2 cs
    else if c = 'u' then readCodePoint f 4 cs
    else if c = 'U' then readCodePoint f 8 cs
    else if c = 'p' ∨ c = 'P' then
      match f.skip cs with
      | k :: rest => (categorySet? f (c == 'P') k).map fun s => (.set s, f.skip rest)
      | [] => none
    else if ['d', 's', 'w', 'D', 'S', 'W'].contains c then
      (letterSet? f c).map fun s => (.set s, cs)
    else if isEscapable c then some (.char c, cs)
    else
      match controls.lookup c, endAnchors.lookup c, wordAnchors.lookup c with
      | some c, _, _ => some (.char c, cs)
      | _, some a, _ => some (.anchor a, cs)
      | _, _, some a => if f.beyondAscii then none else some (.anchor a, cs)
      | _, _, _ => none

/-! ## Sets in brackets -/

/-- Something that has been read, and how deeply its parts are nested. -/
structure Nested (α : Type) where
  value : α
  depth : Nat := 0
  deriving DecidableEq, Repr

/-- The depth of what holds parts of these depths. -/
def depthAround (depths : List Nat) : Nat := depths.foldr max 0 + 1

/-- The part of a set that is being read: what stands before the last operation,
    and what has come since. -/
structure OpenSet where
  isNegated : Bool
  operand? : Option (SetOperation × Nested CharSet) := none
  /-- The items, the last in front. -/
  items : List (Nested CharSet) := []
  deriving DecidableEq, Repr

namespace OpenSet

def add (o : OpenSet) (item : Nested CharSet) : OpenSet := { o with items := item :: o.items }

def addChar (o : OpenSet) (c : Char) : OpenSet := o.add ⟨.single c, 0⟩

/-- The union of the items. -/
def itemUnion (o : OpenSet) : Nested CharSet :=
  match o.items with
  | [] => ⟨.empty, 0⟩
  | [item] => item
  | items => ⟨CharSet.unions (items.map (·.value)), depthAround (items.map (·.depth))⟩

/-- The sides of an operation hold both cases of letters if the flags say so. -/
def side (f : Flags) (s : CharSet) : CharSet := (finishSet? f false s).getD s

/-- What has been read so far. -/
def value (f : Flags) (o : OpenSet) : Nested CharSet :=
  match o.operand? with
  | none => o.itemUnion
  | some (operation, left) =>
    ⟨.combination operation (side f left.value) (side f o.itemUnion.value),
      depthAround [left.depth, o.itemUnion.depth]⟩

/-- The set at its closing bracket. -/
def close? (f : Flags) (o : OpenSet) : Option (Nested CharSet) :=
  (finishSet? f o.isNegated (o.value f).value).map fun s => ⟨s, depthAround [(o.value f).depth]⟩

/-- The set after the sign of an operation. -/
def operate (f : Flags) (o : OpenSet) (operation : SetOperation) : OpenSet :=
  { o with operand? := some (operation, o.value f), items := [] }

end OpenSet

/-- Takes the minus signs at the front of a set, which stand for themselves. -/
def takeMinus (f : Flags) (o : OpenSet) : Nat → List Char → Option (OpenSet × List Char)
  | 0, _ => none
  | fuel + 1, cs =>
    match f.skip cs with
    | [] => none
    | '-' :: cs => takeMinus f (o.addChar '-') fuel cs
    | cs => some (o, cs)

/-- Opens a set after its bracket: it may be negated, and minus signs or else a
    closing bracket at the front stand for themselves. -/
def openSet? (f : Flags) (cs : List Char) : Option (OpenSet × List Char) :=
  let (isNegated, cs) :=
    match f.skip cs with
    | '^' :: cs => (true, cs)
    | cs => (false, cs)
  match takeMinus f { isNegated } (cs.length + 1) cs with
  | some (o, ']' :: rest) =>
    if o.items.isEmpty then
      if (f.skip rest).isEmpty then none else some (o.addChar ']', f.skip rest)
    else some (o, ']' :: rest)
  | found => found

/-- Reads the name of a set of ASCII after `[:`. -/
def readNamed? (f : Flags) (cs : List Char) : Option (Option CharSet × List Char) :=
  let (isNegated, cs) :=
    match cs with
    | '^' :: cs => (true, cs)
    | cs => (false, cs)
  match cs.dropWhile (· != ':') with
  | ':' :: ']' :: rest =>
    (CharSet.named.lookup (String.ofList (cs.takeWhile (· != ':')))).map fun s =>
      (finishSet? f isNegated s, rest)
  | _ => none

/-- Reads one character or escape of a set. -/
def readSetAtom (f : Flags) : List Char → Option (Atom × List Char)
  | '\\' :: cs => readEscape f cs
  | c :: cs => some (.char c, cs)
  | [] => none

/-- The character of an atom that may stand in a set. -/
def setChar? (f : Flags) : Atom → Option Char
  | .char c => if f.beyondAscii || c.toNat ≤ 0x7F then some c else none
  | _ => none

/-- An atom as an item of a set. -/
def setItem? (f : Flags) : Atom → Option CharSet
  | .set s => some s
  | atom => (setChar? f atom).map .single

/-- Reads a range or a single item of a set. -/
def readSetRange (f : Flags) (cs : List Char) : Option (CharSet × List Char) := do
  let (first, rest) ← readSetAtom f cs
  match f.skip rest with
  | [] => none
  | '-' :: rest =>
    if f.next? rest = some ']' ∨ f.next? rest = some '-' then
      return (← setItem? f first, '-' :: rest)
    else
      let (last, rest) ← readSetAtom f (f.skip rest)
      let first ← setChar? f first
      let last ← setChar? f last
      if last < first then none else return (.range first last, rest)
  | rest => return (← setItem? f first, rest)

/-- Reads a set to its closing bracket; `outer` are the sets around it. -/
def readSet (f : Flags) : Nat → List OpenSet → OpenSet → List Char →
    Option (Nested CharSet × List Char)
  | 0, _, _, _ => none
  | fuel + 1, outer, o, cs =>
    match f.skip cs with
    | [] => none
    | '[' :: cs =>
      match cs with
      | ':' :: name =>
        match readNamed? f name with
        | some (some s, rest) => readSet f fuel outer (o.add ⟨s, 0⟩) rest
        | some (none, _) => none
        | none => (openSet? f cs).bind fun (inner, rest) => readSet f fuel (o :: outer) inner rest
      | cs => (openSet? f cs).bind fun (inner, rest) => readSet f fuel (o :: outer) inner rest
    | ']' :: rest =>
      match o.close? f, outer with
      | none, _ => none
      | some s, [] => some (s, rest)
      | some s, around :: outer => readSet f fuel outer (around.add s) rest
    | '&' :: '&' :: rest => readSet f fuel outer (o.operate f .intersection) rest
    | '-' :: '-' :: rest => readSet f fuel outer (o.operate f .difference) rest
    | '~' :: '~' :: rest => readSet f fuel outer (o.operate f .symmetricDifference) rest
    | cs =>
      match readSetRange f cs with
      | some (s, rest) => readSet f fuel outer (o.add ⟨s, 0⟩) rest
      | none => none

/-! ## Groups -/

/-- A part of a sequence.  A change of flags is a part that cannot be repeated. -/
structure Part where
  pattern : Pattern
  depth : Nat := 0
  isRepeatable : Bool := true
  deriving DecidableEq, Repr

/-- What has been read of a group. -/
structure Level where
  flags : Flags := {}
  /-- The alternatives that are complete, the last in front. -/
  alternatives : List Part := []
  /-- The parts of the alternative that is being read, the last in front. -/
  parts : List Part := []
  deriving DecidableEq, Repr

namespace Level

def add (l : Level) (part : Part) : Level := { l with parts := part :: l.parts }

/-- The parts one after the other. -/
def sequence (l : Level) : Part :=
  match l.parts with
  | [] => { pattern := .nothing }
  | [part] => part
  | parts =>
    { pattern := parts.reverse.foldr (fun part rest => .both part.pattern rest) .nothing
      depth := depthAround (parts.map (·.depth)) }

/-- The level after the sign of an alternative. -/
def alternate (l : Level) : Level :=
  { l with alternatives := l.sequence :: l.alternatives, parts := [] }

/-- All that has been read. -/
def value (l : Level) : Part :=
  match l.alternatives with
  | [] => l.sequence
  | earlier =>
    { pattern := earlier.foldl (fun rest part => .either part.pattern rest) l.sequence.pattern
      depth := depthAround (l.sequence.depth :: earlier.map (·.depth)) }

/-- The level with its last part repeated. -/
def repeatLast? (l : Level) (times : Bool → Pattern → Pattern) (isLazy : Bool) : Option Level :=
  match l.parts with
  | part :: parts =>
    if part.isRepeatable then
      some { l with parts :=
        { pattern := times (isLazy == l.flags.swapped) part.pattern
          depth := depthAround [part.depth] } :: parts }
    else none
  | [] => none

end Level

/-- Whether a character may stand in a group's name. -/
def isNameChar (isFirst : Bool) (c : Char) : Bool :=
  c == '_' ||
    if isFirst then CharProperty.isAlphabetic c
    else c == '.' || c == '[' || c == ']' || CharProperty.isAlphanumeric c

/-- Reads the name of a group. -/
def readName (cs : List Char) : Option (List Char × List Char) :=
  let name := cs.takeWhile (· != '>')
  match name, cs.dropWhile (· != '>') with
  | first :: more, _ :: rest =>
    if isNameChar true first && more.all (isNameChar false) then some (name, rest) else none
  | _, _ => none

/-- How a group begins. -/
inductive Opening where
  /-- With a name, if it has one. -/
  | capture (name? : Option (List Char))
  /-- With flags for what is inside. -/
  | flagged (f : Flags)
  /-- With flags for what follows: this is no group. -/
  | change (f : Flags)
  deriving DecidableEq, Repr

/-- Reads how a group begins, after its parenthesis.  Conditions on what stands
    around are not supported. -/
def readOpening (f : Flags) (cs : List Char) : Option (Opening × List Char) :=
  match f.skip cs with
  | '?' :: 'P' :: '<' :: rest => (readName rest).map fun (name, rest) => (.capture name, rest)
  | '?' :: '<' :: rest =>
    match rest with
    | '=' :: _ => none
    | '!' :: _ => none
    | rest => (readName rest).map fun (name, rest) => (.capture name, rest)
  | '?' :: rest =>
    (f.readChange [] rest).map fun (f, isGroup, rest) =>
      (if isGroup then .flagged f else .change f, rest)
  | rest => some (.capture none, rest)

/-! ## Patterns -/

/-- The pattern of the point. -/
def dot? (f : Flags) : Option Pattern :=
  if ! f.beyondAscii then none
  else if f.dotAll then some (.oneOf .all)
  else if f.crlf then some (.oneOf (.complement (.ofList ['\r', '\n'])))
  else some (.oneOf (.complement (.single '\n')))

/-- The anchor of a start or an end. -/
def endAnchor (f : Flags) (isStart : Bool) : Anchor :=
  if ! f.byLine then if isStart then .textStart else .textEnd
  else if f.crlf then if isStart then .lineStartCrlf else .lineEndCrlf
  else if isStart then .lineStart else .lineEnd

/-- The pattern of an atom.  Letters that stand for both cases are those of
    ASCII if sets hold no others. -/
def ofAtom (f : Flags) : Atom → Pattern
  | .char c => .oneOf ((finishSet? f false (.single c)).getD (.single c))
  | .set s => .oneOf s
  | .anchor a => .anchored a

/-- How often a sign lets the part before it stand. -/
def repetition? (c : Char) : Option (Bool → Pattern → Pattern) :=
  if c = '?' then some .optional
  else if c = '*' then some .star
  else if c = '+' then some .repeated
  else none

/-- Reads what is left of a pattern; `outer` are the groups around the level
    that is being read, and `names` those that are taken. -/
def readParts : Nat → List (List Char) → List Level → Level → List Char → Option Part
  | 0, _, _, _, _ => none
  | fuel + 1, names, outer, l, cs =>
    match l.flags.skip cs with
    | [] => if outer.isEmpty then some l.value else none
    | '(' :: cs =>
      match readOpening l.flags cs with
      | none => none
      | some (.change flags, rest) =>
        readParts fuel names outer
          ({ l with flags }.add { pattern := .nothing, isRepeatable := false }) rest
      | some (.flagged flags, rest) => readParts fuel names (l :: outer) { flags } rest
      | some (.capture none, rest) => readParts fuel names (l :: outer) { flags := l.flags } rest
      | some (.capture (some name), rest) =>
        if names.contains name then none
        else readParts fuel (name :: names) (l :: outer) { flags := l.flags } rest
    | ')' :: rest =>
      match outer with
      | [] => none
      | around :: outer =>
        readParts fuel names outer
          (around.add { pattern := l.value.pattern, depth := depthAround [l.value.depth] }) rest
    | '|' :: rest => readParts fuel names outer l.alternate rest
    | '[' :: rest =>
      match openSet? l.flags rest with
      | none => none
      | some (o, rest) =>
        match readSet l.flags (rest.length + 1) [] o rest with
        | none => none
        | some (s, rest) =>
          readParts fuel names outer (l.add { pattern := .oneOf s.value, depth := s.depth }) rest
    | '{' :: _ => none
    | '\\' :: rest =>
      match readEscape l.flags rest with
      | none => none
      | some (atom, rest) => readParts fuel names outer (l.add { pattern := ofAtom l.flags atom }) rest
    | '.' :: rest =>
      match dot? l.flags with
      | none => none
      | some p => readParts fuel names outer (l.add { pattern := p }) rest
    | '^' :: rest =>
      readParts fuel names outer (l.add { pattern := .anchored (endAnchor l.flags true) }) rest
    | '$' :: rest =>
      readParts fuel names outer (l.add { pattern := .anchored (endAnchor l.flags false) }) rest
    | c :: rest =>
      match repetition? c with
      | some times =>
        let (isLazy, rest) :=
          match rest with
          | '?' :: rest => (true, rest)
          | rest => (false, rest)
        match l.repeatLast? times isLazy with
        | none => none
        | some l => readParts fuel names outer l rest
      | none => readParts fuel names outer (l.add { pattern := ofAtom l.flags (.char c) }) rest
/-- The deepest nesting of parts. -/
def depthLimit : Nat := 250

/-- The pattern that a text writes. -/
def read? (text : String) : Option Pattern :=
  match readParts (text.toList.length + 1) [] [] {} text.toList with
  | some part => if part.depth ≤ depthLimit then some part.pattern else none
  | none => none

end ClassAtlas.Pattern
