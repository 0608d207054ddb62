import ClassAtlas.Number.Shortest
import ClassAtlas.Text.Quoted
import ClassAtlas.Text.Utf8

/-! # Faults of manifest texts

    Why a text is no manifest, and where: the cause of the first fault and how
    many bytes of the text were read when it was met.  The message counts that
    place in lines and in bytes of the last line.
-/

namespace ClassAtlas.Manifest

/-! ## Causes -/

/-- A number as a text writes it: a whole number that fits 64 bits, or any
    other, by its sign and its rounded size. -/
inductive Number where
  | whole (value : Int)
  | real (isNegative : Bool) (size : Binary64)
  deriving DecidableEq, Repr

/-- A value that stands where another kind of value belongs. -/
inductive Found where
  | null
  | bool (value : Bool)
  | number (value : Number)
  | text (value : String)
  | list
  | object
  deriving DecidableEq, Repr

inductive Cause where
  /-- The text ends inside a value, a quoted text, a list or an object. -/
  | endOfValue
  | endOfText
  | endOfList
  | endOfObject
  | expectedValue
  /-- A word other than `null`, `true` and `false`. -/
  | expectedWord
  | expectedColon
  | expectedListGap
  | expectedObjectGap
  | keyIsNoText
  | trailingComma
  | trailingCharacters
  | invalidNumber
  | numberOutOfRange
  | invalidEscape
  /-- Half of a surrogate pair without its other half. -/
  | loneSurrogate
  /-- The first half of a surrogate pair, and no escape after it. -/
  | unfinishedSurrogate
  | controlCharacter
  | wrongKind (found : Found) (expected : String)
  /-- A record written as a list that ends before a required field. -/
  | tooShort (count : Nat) (record : String) (fields : Nat)
  | unknownField (name : String) (known : List String)
  | unknownVariant (name : String) (known : List String)
  | duplicateField (name : String)
  | missingField (name : String)
  deriving DecidableEq, Repr

/-- A cause, with the number of bytes read when it was met. -/
structure Fault where
  cause : Cause
  offset : Nat
  deriving DecidableEq, Repr

/-! ## Messages -/

/-- A name as messages show it. -/
def ticked (name : String) : String := "`" ++ name ++ "`"

def Number.message : Number → String
  | .whole value => "integer " ++ ticked (toString value)
  | .real isNegative size =>
    let sign := if isNegative then "-" else ""
    "floating point " ++ ticked (sign ++ String.ofList size.text)

def Found.message : Found → String
  | .null => "null"
  | .bool value => "boolean " ++ ticked (if value then "true" else "false")
  | .number value => value.message
  | .text value => "string " ++ Quoted.encode value
  | .list => "sequence"
  | .object => "map"

/-- The names that would have been right. -/
def oneOf : List String → String
  | [] => "there are no names"
  | [a] => ticked a
  | [a, b] => ticked a ++ " or " ++ ticked b
  | names => "one of " ++ ", ".intercalate (names.map ticked)

def Cause.message : Cause → String
  | .endOfValue => "EOF while parsing a value"
  | .endOfText => "EOF while parsing a string"
  | .endOfList => "EOF while parsing a list"
  | .endOfObject => "EOF while parsing an object"
  | .expectedValue => "expected value"
  | .expectedWord => "expected ident"
  | .expectedColon => "expected `:`"
  | .expectedListGap => "expected `,` or `]`"
  | .expectedObjectGap => "expected `,` or `\x7d`"
  | .keyIsNoText => "key must be a string"
  | .trailingComma => "trailing comma"
  | .trailingCharacters => "trailing characters"
  | .invalidNumber => "invalid number"
  | .numberOutOfRange => "number out of range"
  | .invalidEscape => "invalid escape"
  | .loneSurrogate => "lone leading surrogate in hex escape"
  | .unfinishedSurrogate => "unexpected end of hex escape"
  | .controlCharacter => "control character (\\u0000-\\u001F) found while parsing a string"
  | .wrongKind found expected => "invalid type: " ++ found.message ++ ", expected " ++ expected
  | .tooShort count record fields =>
    "invalid length " ++ toString count ++ ", expected " ++ record ++ " with "
      ++ toString fields ++ " elements"
  | .unknownField name known => "unknown field " ++ ticked name ++ ", expected " ++ oneOf known
  | .unknownVariant name known => "unknown variant " ++ ticked name ++ ", expected " ++ oneOf known
  | .duplicateField name => "duplicate field " ++ ticked name
  | .missingField name => "missing field " ++ ticked name

/-! ## Places -/

/-- The line of a place, from one, and the bytes of that line before it. -/
structure Place where
  line : Nat
  column : Nat
  deriving DecidableEq, Repr

def lineFeed : UInt8 := 0x0A

/-- The place after the given bytes. -/
def Place.after (bs : Bytes) : Place where
  line := bs.count lineFeed + 1
  column := (bs.reverse.takeWhile (· != lineFeed)).length

def Place.message (p : Place) : String :=
  " at line " ++ toString p.line ++ " column " ++ toString p.column

/-- What is said of a fault in a text. -/
def Fault.message (f : Fault) (contents : String) : String :=
  f.cause.message ++ (Place.after ((Utf8.encode contents).take f.offset)).message

end ClassAtlas.Manifest
