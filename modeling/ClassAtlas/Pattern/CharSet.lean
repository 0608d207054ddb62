import ClassAtlas.Text.CaseFolding
import ClassAtlas.Text.CharProperty

/-! # Character sets

    The sets of characters that patterns name: ranges, properties, and what is
    put together from them.  A set says of each character whether it holds it.
-/

namespace ClassAtlas

/-- The general categories, by their first letters. -/
inductive Category where
  | letter
  | mark
  | numeral
  | punctuation
  | symbol
  | separator
  | other
  deriving DecidableEq, Repr

namespace Category

/-- The category of a letter of either case. -/
def ofLetter? (c : Char) : Option Category :=
  match c.toLower with
  | 'l' => some .letter
  | 'm' => some .mark
  | 'n' => some .numeral
  | 'p' => some .punctuation
  | 's' => some .symbol
  | 'z' => some .separator
  | 'c' => some .other
  | _ => none

/-- Whether a character is of the category; `other` are those of no other. -/
def holds : Category → Char → Bool
  | .letter, c => Letters.contains c
  | .mark, c => Marks.contains c
  | .numeral, c => Numerals.contains c
  | .punctuation, c => Punctuation.contains c
  | .symbol, c => Symbols.contains c
  | .separator, c => Separators.contains c
  | .other, c =>
    ! (Letters.contains c || Marks.contains c || Numerals.contains c || Punctuation.contains c
      || Symbols.contains c || Separators.contains c)

end Category

/-- How the two sides of a set operation are combined. -/
inductive SetOperation where
  | intersection
  | difference
  | symmetricDifference
  deriving DecidableEq, Repr

/-- Whether the combination of two sets holds a character, from whether each does. -/
def SetOperation.combine : SetOperation → Bool → Bool → Bool
  | .intersection, a, b => a && b
  | .difference, a, b => a && ! b
  | .symmetricDifference, a, b => a != b

inductive CharSet where
  | empty
  /-- The characters between two, both included. -/
  | range (first last : Char)
  | category (k : Category)
  | digits
  | blanks
  | words
  | complement (s : CharSet)
  | union (s t : CharSet)
  | combination (o : SetOperation) (s t : CharSet)
  /-- A set with the characters that differ from its own in case only. -/
  | caseless (s : CharSet)
  /-- The same for the letters of ASCII. -/
  | caselessAscii (s : CharSet)
  deriving DecidableEq, Repr

namespace CharSet

/-- A letter of ASCII in the other case; another character as it is. -/
def otherCase (c : Char) : Char := if c.isUpper then c.toLower else c.toUpper

def contains : CharSet → Char → Bool
  | .empty, _ => false
  | .range first last, c => first.toNat ≤ c.toNat && c.toNat ≤ last.toNat
  | .category k, c => k.holds c
  | .digits, c => Numerals.isDigit c
  | .blanks, c => CharProperty.isBlank c
  | .words, c => CharProperty.isWord c
  | .complement s, c => ! s.contains c
  | .union s t, c => s.contains c || t.contains c
  | .combination o s t, c => o.combine (s.contains c) (t.contains c)
  | .caseless s, c => (CaseFolding.variants c).any fun d => s.contains d
  | .caselessAscii s, c => s.contains c || s.contains (otherCase c)

/-- The set of one character. -/
def single (c : Char) : CharSet := .range c c

/-- The set of all characters. -/
def all : CharSet := .complement .empty

def ofList (cs : List Char) : CharSet := cs.foldr (fun c s => .union (single c) s) .empty

/-- The union of several sets. -/
def unions (sets : List CharSet) : CharSet := sets.foldr .union .empty

/-! ## Named sets of ASCII -/

def asciiDigits : CharSet := .range '0' '9'

def asciiUpper : CharSet := .range 'A' 'Z'

def asciiLower : CharSet := .range 'a' 'z'

def asciiLetters : CharSet := .union asciiUpper asciiLower

def asciiBlanks : CharSet := .union (.range '\t' '\r') (single ' ')

def asciiWords : CharSet := unions [asciiDigits, asciiLetters, single '_']

/-- The sets that have names inside brackets. -/
def named : List (String × CharSet) :=
  [("alnum", .union asciiDigits asciiLetters),
   ("alpha", asciiLetters),
   ("ascii", .range '\x00' '\x7F'),
   ("blank", ofList ['\t', ' ']),
   ("cntrl", .union (.range '\x00' '\x1F') (single '\x7F')),
   ("digit", asciiDigits),
   ("graph", .range '!' '~'),
   ("lower", asciiLower),
   ("print", .range ' ' '~'),
   ("punct", unions [.range '!' '/', .range ':' '@', .range '[' '\x60', .range '\x7b' '~']),
   ("space", asciiBlanks),
   ("upper", asciiUpper),
   ("word", asciiWords),
   ("xdigit", unions [asciiDigits, .range 'A' 'F', .range 'a' 'f'])]

end CharSet

end ClassAtlas
