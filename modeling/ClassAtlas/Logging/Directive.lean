import ClassAtlas.Logging.Record
import ClassAtlas.Pattern.Reader
import ClassAtlas.Text.Utf8

/-! # Log directives

    A directive sets a level for everything, for the targets that begin with a
    text, or for what happens inside a span:

        info
        pumlgen::plugins::manifest=debug
        pumlgen::plugins::pipeline[generate]=trace
        [load_manifests{root=src}]=debug

    A target without a level asks for everything from it.  A span is asked for
    by its name, by a field that it has, or by what a field says: a number, or
    a text in which a pattern reaches to the end.

    The blanks around a directive are not part of it, but the places of its
    signs are counted without those in front, and its parts are cut from the
    text with them.  So blanks in front shift every part.
-/

namespace ClassAtlas

/-! ## Tests of fields -/

/-- What is asked of the value of a field. -/
inductive FieldTest where
  | isCount (n : Nat)
  /-- A pattern, as it is written and as it is read. -/
  | reachedBy (written : String) (p : Pattern)
  /-- A truth value, or a number that is negative or no whole number: no field
      has such a value. -/
  | never
  deriving DecidableEq, Repr

namespace FieldTest

/-- The number that decimal digits write, if there are digits only. -/
def digits? (cs : List Char) : Option Nat :=
  if ! cs.isEmpty && cs.all Char.isDigit then
    some (cs.foldl (fun n d => n * 10 + (d.toNat - '0'.toNat)) 0)
  else none

/-- A number without the plus in front. -/
def dropPlus : List Char → List Char
  | '+' :: cs => cs
  | cs => cs

/-- A number without the sign in front. -/
def dropSign : List Char → List Char
  | '+' :: cs => cs
  | '-' :: cs => cs
  | cs => cs

/-- Whether digits with at most one point follow, and at least one digit; then
    an exponent may follow. -/
def isDecimal (cs : List Char) : Bool :=
  let rest := cs.dropWhile Char.isDigit
  let whole := cs.takeWhile Char.isDigit
  let (part, rest) :=
    match rest with
    | '.' :: rest => (rest.takeWhile Char.isDigit, rest.dropWhile Char.isDigit)
    | rest => ([], rest)
  ! (whole.isEmpty && part.isEmpty) &&
    match rest with
    | [] => true
    | c :: rest => (c == 'e' || c == 'E') && (digits? (dropSign rest)).isSome

/-- The names of numbers that are not finite, in lowercase. -/
def nonFinite : List (List Char) :=
  [['i', 'n', 'f'], ['i', 'n', 'f', 'i', 'n', 'i', 't', 'y'], ['n', 'a', 'n']]

/-- Whether a text writes a number with a point or exponent, or a name of one. -/
def isNumber (cs : List Char) : Bool :=
  isDecimal (dropSign cs) || nonFinite.contains ((dropSign cs).map Char.toLower)

/-- The first number that is no count. -/
def countLimit : Nat := 18446744073709551616

/-- The test that a text writes. -/
def read? (cs : List Char) : Option FieldTest :=
  match (digits? (dropPlus cs)).filter (· < countLimit) with
  | some n => some (.isCount n)
  | none =>
    let written := String.ofList cs
    if written = "true" ∨ written = "false" ∨ isNumber cs then some .never
    else (Pattern.read? written).map (.reachedBy written)

/-- Whether a value passes the test. -/
def passes : FieldTest → FieldValue → Bool
  | .isCount n, .count m => n == m
  | .reachedBy _ p, .text s => p.endsIn s
  | _, _ => false

end FieldTest

/-- A field that a span must have, and what is asked of its value. -/
structure FieldSelector where
  name : String
  test? : Option FieldTest := none
  deriving DecidableEq, Repr

/-- The selector that a text writes: a name, and a test up to a second sign `=`. -/
def FieldSelector.read? (cs : List Char) : Option FieldSelector :=
  let name := String.ofList (cs.takeWhile (· != '='))
  match cs.dropWhile (· != '=') with
  | [] => some { name }
  | _ :: value =>
    (FieldTest.read? (value.takeWhile (· != '='))).map fun test => { name, test? := some test }

/-! ## Directives -/

structure Directive where
  target? : Option String := none
  span? : Option String := none
  field? : Option FieldSelector := none
  level : LogLevel := .trace
  deriving DecidableEq, Repr

/-- Why a directive cannot be read. -/
inductive DirectiveFault where
  | malformed
  /-- A part would begin or end inside a character. -/
  | cutCharacter
  deriving DecidableEq, Repr

namespace Directive

/-- The level that a name or a digit stands for, in letters of either case. -/
def level? (cs : List Char) : Option LogLevel :=
  match FieldTest.digits? (FieldTest.dropPlus cs) with
  | some n => LogLevel.all.find? (·.rank == n)
  | none => LogLevel.all.find? (·.name == String.ofList (cs.map Char.toLower))

/-- Whether a target may begin with the character. -/
def opensTarget (c : Char) : Bool :=
  c == '-' || c == ':' || c == '_' || CharProperty.isAlphanumeric c

/-- What is being read, and where it starts. -/
inductive Stage where
  | opening
  /-- A target, or a level by itself. -/
  | word
  | span (start : Nat)
  | field (start : Nat)
  | afterField
  | afterSpan
  | level (start : Nat)
  deriving DecidableEq, Repr

/-- The part of the text between two places. -/
def part (text : List Char) (start stop : Nat) : Except DirectiveFault (List Char) :=
  match Utf8.slice? start stop text with
  | some cs => .ok cs
  | none => .error .cutCharacter

/-- One more character, at a place. -/
def step (text : List Char) (d : Directive) (stage : Stage) (place : Nat) (c : Char) :
    Except DirectiveFault (Directive × Stage) :=
  match stage with
  | .opening =>
    if c = '[' then .ok (d, .span (place + 1))
    else if opensTarget c then .ok (d, .word)
    else .error .malformed
  | .word =>
    if c = '=' ∨ c = '[' then do
      let target ← part text 0 place
      return ({ d with target? := some (String.ofList target) },
        if c = '=' then .level (place + 1) else .span (place + 1))
    else .ok (d, .word)
  | .span start =>
    if c = ']' then do
      let name ← part text start place
      return ({ d with span? := some (String.ofList name) }, .afterSpan)
    else if c = '\x7b' then do
      let name ← part text start place
      return ({ d with span? := if name.isEmpty then none else some (String.ofList name) },
        .field (place + 1))
    else .ok (d, .span start)
  | .field start =>
    if c = '\x7d' then do
      let written ← part text start place
      match if written.isEmpty then none else FieldSelector.read? written with
      | some field => return ({ d with field? := some field }, .afterField)
      | none => throw .malformed
    else .ok (d, .field start)
  | .afterField => if c = ']' then .ok (d, .afterSpan) else .error .malformed
  | .afterSpan => if c = '=' then .ok (d, .level (place + 1)) else .error .malformed
  | .level start => .ok (d, .level start)

/-- The directive when the characters end; what is being read goes to the end of
    the text. -/
def finish (text : List Char) (d : Directive) (stage : Stage) : Except DirectiveFault Directive :=
  match stage with
  | .word =>
    match level? text with
    | some level => .ok { d with level }
    | none => .ok { d with target? := some (String.ofList text) }
  | .afterSpan => .ok d
  | .level start => do
    let written ← part text start (Utf8.size text)
    match if written.isEmpty then some .trace else level? written with
    | some level => return { d with level }
    | none => throw .malformed
  | _ => .error .malformed

/-- Goes through the characters of a directive from a place on. -/
def readFrom (text : List Char) (d : Directive) (stage : Stage) (place : Nat) :
    List Char → Except DirectiveFault Directive
  | [] => finish text d stage
  | c :: cs =>
    match step text d stage place c with
    | .ok (d, stage) => readFrom text d stage (place + c.utf8Size) cs
    | .error fault => .error fault

/-- A text without the blanks at its ends. -/
def trim (cs : List Char) : List Char :=
  ((cs.dropWhile CharProperty.isBlank).reverse.dropWhile CharProperty.isBlank).reverse

/-- The directive that a text writes. -/
def read (text : List Char) : Except DirectiveFault Directive :=
  readFrom text {} .opening 0 (trim text)

/-! ## What directives fit -/

/-- Whether the directive is for what happens inside spans. -/
def isForSpans (d : Directive) : Bool := d.span?.isSome || d.field?.isSome

/-- What the directive asks of the field that it names. -/
def test? (d : Directive) : Option FieldTest := d.field?.bind (·.test?)

/-- Whether the directive is for records anywhere. -/
def isForRecords (d : Directive) : Bool := d.span?.isNone && d.test?.isNone

/-- Whether the directive selects what another selects. -/
def selectsSameAs (d other : Directive) : Bool :=
  d.target? == other.target? && d.span? == other.span? && d.field? == other.field?

/-- Whether the directive's target, if it has one, begins the other. -/
def fitsTarget (d : Directive) (target : String) : Bool :=
  match d.target? with
  | some t => t.toList.isPrefixOf target.toList
  | none => true

/-- Whether the directive's field, if it has one, is among those. -/
def fitsFields (d : Directive) (names : List String) : Bool :=
  match d.field? with
  | some field => names.contains field.name
  | none => true

/-- Whether a record anywhere is one that the directive is for. -/
def fitsRecord (d : Directive) (r : LogRecord) : Bool :=
  d.isForRecords && d.fitsTarget r.topic.target
    && (r.entered?.isSome || d.fitsFields r.fields)

/-- Whether a span is one that the directive is for, whatever its fields say. -/
def fitsSpan (d : Directive) (s : Span) : Bool :=
  d.isForSpans && d.fitsTarget s.topic.target
    && (match d.span? with | some name => name == s.name | none => true)
    && d.fitsFields s.fieldNames

/-- Whether a span's fields say what the directive asks for. -/
def passedBy (d : Directive) (s : Span) : Bool :=
  match d.field? with
  | some { name, test? := some test } => (s.fields.lookup name).any test.passes
  | _ => true

/-- How narrowly the directive selects records: by the length of its target, then
    by whether it names a field, then by that name. -/
def weight (d : Directive) : List Nat × Bytes :=
  ([match d.target? with | some t => t.utf8ByteSize + 1 | none => 0,
    match d.field? with | some _ => 1 | none => 0],
   match d.field? with | some field => Utf8.encode field.name | none => [])

/-- Whether `d` selects at least as narrowly as `other`. -/
def outweighs (d other : Directive) : Bool :=
  decide (other.weight.1 < d.weight.1) ||
    (other.weight.1 == d.weight.1 && decide (other.weight.2 ≤ d.weight.2))

end Directive

end ClassAtlas
