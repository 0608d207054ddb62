import ClassAtlas.Path.Absolute
import ClassAtlas.Text.Hex

/-! # File links

    The link to a source file is a `file` URI of the absolute path.  Letters,
    digits and the marks that a URI path may hold stand for themselves, every
    other byte is written as `%` and two uppercase digits.  `decode?` reads a
    link's path back.
-/

namespace ClassAtlas.Uri

/-- The marks that stand for themselves. -/
def marks : List Char :=
  ['-', '.', '_', '~', '/', ':', '@', '!', '$', '&', '\'', '(', ')', '*', '+', ',', ';', '=']

/-- The characters that stand for themselves: ASCII letters, digits and marks. -/
def isPlain (c : Char) : Bool := c.isAlphanum || marks.contains c

/-- A byte of a path as it stands in a link. -/
def encodeByte (b : UInt8) : List Char :=
  let c := Char.ofNat b.toNat
  if isPlain c then [c] else '%' :: Hex.byteUpper b

/-- The bytes of a path as they stand in a link. -/
def encode (bs : Bytes) : List Char := bs.flatMap encodeByte

/-- The bytes that an encoded text stands for. -/
def decode? : List Char → Option Bytes
  | [] => some []
  | '%' :: h :: l :: cs => do
    let high ← Hex.value? h
    let low ← Hex.value? l
    let rest ← decode? cs
    return UInt8.ofNat (high * 16 + low) :: rest
  | c :: cs => do
    if isPlain c then return UInt8.ofNat c.toNat :: (← decode? cs) else none

/-- The opening of every link. -/
def scheme : List Char := "file://".toList

/-- The link to the file that `p` names, seen from the directory `cwd`. -/
def ofPath (cwd p : Path) : String :=
  let full := Path.absolute cwd p
  let full := if full.isAbsolute then full.bytes else Path.slash :: full.bytes
  String.ofList (scheme ++ encode full)

end ClassAtlas.Uri
