import ClassAtlas.Pattern.CharSet

/-! # Patterns

    A pattern describes texts.  Here it is searched for in a text: of the
    matches that begin first the one counts that the pattern prefers, where an
    alternative is preferred to those after it, and one more round of a
    repetition to none, or the other way round if the repetition is lazy.

    `Pattern.endsIn` says whether the match that counts reaches to the end of
    the text.  It follows all matches at once.  What is left to match on one of
    them is a list of patterns; the lists stand in the order of preference, and
    a match that is complete cuts off all that come after it.
-/

namespace ClassAtlas

/-! ## Anchors -/

/-- Conditions on the characters around a place in a text. -/
inductive Anchor where
  | textStart
  | textEnd
  | lineStart
  | lineEnd
  /-- As `lineStart`, where a line may also end in a carriage return, with a
      line feed or without. -/
  | lineStartCrlf
  | lineEndCrlf
  /-- Between a character of a word of ASCII and one that is none. -/
  | wordEdge
  | notWordEdge
  | wordStart
  | wordEnd
  deriving DecidableEq, Repr

/-- A place in a text, by the characters before and after it. -/
structure Around where
  before? : Option Char
  after? : Option Char
  deriving DecidableEq, Repr

namespace Around

/-- A place between the bytes of a character.  To anchors the character's bytes
    are like two characters that no anchor knows. -/
def inside : Around := ⟨some '\uFFFD', some '\uFFFD'⟩

def isWordAt (c? : Option Char) : Bool :=
  match c? with
  | some c => CharSet.asciiWords.contains c
  | none => false

/-- Whether an anchor holds at the place. -/
def satisfies (place : Around) : Anchor → Bool
  | .textStart => place.before?.isNone
  | .textEnd => place.after?.isNone
  | .lineStart => place.before?.isNone || place.before? == some '\n'
  | .lineEnd => place.after?.isNone || place.after? == some '\n'
  | .lineStartCrlf =>
    place.before?.isNone || place.before? == some '\n'
      || (place.before? == some '\r' && place.after? != some '\n')
  | .lineEndCrlf =>
    place.after?.isNone || place.after? == some '\r'
      || (place.after? == some '\n' && place.before? != some '\r')
  | .wordEdge => isWordAt place.before? != isWordAt place.after?
  | .notWordEdge => isWordAt place.before? == isWordAt place.after?
  | .wordStart => ! isWordAt place.before? && isWordAt place.after?
  | .wordEnd => isWordAt place.before? && ! isWordAt place.after?

end Around

/-! ## Patterns -/

inductive Pattern where
  /-- Matches the empty text. -/
  | nothing
  /-- Matches one character of a set. -/
  | oneOf (set : CharSet)
  /-- Matches the empty text where an anchor holds. -/
  | anchored (a : Anchor)
  | both (p q : Pattern)
  | either (p q : Pattern)
  /-- Once or not at all; once is preferred if `greedy`. -/
  | optional (greedy : Bool) (p : Pattern)
  /-- Once or more. -/
  | repeated (greedy : Bool) (p : Pattern)
  /-- What follows a round of a repetition: more rounds, or none. -/
  | again (greedy : Bool) (p : Pattern)
  deriving DecidableEq, Repr

namespace Pattern

/-- Any number of times.  This is not the same as `again`: the first round may
    match the empty text before it is decided whether there is another. -/
def star (greedy : Bool) (p : Pattern) : Pattern := .optional greedy (.repeated greedy p)

/-- How many parts a pattern has. -/
def size : Pattern → Nat
  | .nothing => 1
  | .oneOf _ => 1
  | .anchored _ => 1
  | .both p q => p.size + q.size + 1
  | .either p q => p.size + q.size + 1
  | .optional _ p => p.size + 1
  | .repeated _ p => p.size + 2
  | .again _ p => p.size + 2

/-- What is left to match, in order. -/
abbrev Goal : Type := List Pattern

/-- Two continuations in the order of preference. -/
def prefer (first : Bool) (a b : Goal) : List Goal := if first then [a, b] else [b, a]

/-- The goals that a goal turns into at a place, without a character. -/
def unfold (place : Around) : Goal → List Goal
  | [] => []
  | p :: rest =>
    match p with
    | .nothing => [rest]
    | .oneOf _ => []
    | .anchored a => if place.satisfies a then [rest] else []
    | .both p q => [p :: q :: rest]
    | .either p q => [p :: rest, q :: rest]
    | .optional greedy p => prefer greedy (p :: rest) rest
    | .repeated greedy p => [p :: .again greedy p :: rest]
    | .again greedy p => prefer greedy (p :: .again greedy p :: rest) rest

/-- Adds to the goals that are there, in the order of preference, a goal and all
    that it turns into, each once.  A chain of new goals is no longer than
    `fuel`, if that is as many as there are goals. -/
def settle (place : Around) : Nat → List Goal → Goal → List Goal
  | 0, seen, _ => seen
  | fuel + 1, seen, goal =>
    if seen.contains goal then seen
    else (unfold place goal).foldl (settle place fuel) (seen ++ [goal])

/-- Goals with all that they turn into, for a search for `p`. -/
def settleAll (p : Pattern) (place : Around) (goals : List Goal) : List Goal :=
  goals.foldl (settle place (2 * p.size + 2)) []

/-- What is left of a goal after a character, if it starts with that. -/
def after? (c : Char) : Goal → Option Goal
  | .oneOf set :: rest => if set.contains c then some rest else none
  | _ => none

/-- Whether the pattern matches the empty text inside a character. -/
def matchesInside (p : Pattern) : Bool := (settleAll p .inside [[p]]).contains []

/-- Whether the match that counts reaches to the end, from a place on at which
    the matches that have begun have the goals left.  A match may still begin if
    the search is open. -/
def reachesEnd (p : Pattern) (isOpen : Bool) (goals : List Goal) (before? : Option Char) :
    List Char → Bool
  | [] => (settleAll p ⟨before?, none⟩ (goals ++ if isOpen then [[p]] else [])).contains []
  | c :: cs =>
    let settled := settleAll p ⟨before?, some c⟩ (goals ++ if isOpen then [[p]] else [])
    let live := settled.takeWhile (! ·.isEmpty)
    let isOpen := isOpen && live.length == settled.length
      && ! (1 < c.utf8Size && p.matchesInside)
    p.reachesEnd isOpen (live.filterMap (after? c)) (some c) cs

/-- Whether the match of the pattern in a text reaches to its end. -/
def endsIn (p : Pattern) (text : String) : Bool := p.reachesEnd true [] none text.toList

end Pattern

end ClassAtlas
