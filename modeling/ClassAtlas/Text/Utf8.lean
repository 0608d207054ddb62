/-! # UTF-8

    File names and file contents are bytes.  They are shown to people and
    compared with text through the reading below, which goes through the bytes
    once and yields one piece for every character and one for every run of
    bytes that begins a character and cannot be finished.

    `decode?` accepts the bytes that hold characters only; `lossy` shows any
    bytes, each unfinished run as one U+FFFD.
-/

namespace ClassAtlas

/-- A sequence of bytes: a file's contents, or the text of a path. -/
abbrev Bytes : Type := List UInt8

namespace Utf8

/-! ## Writing -/

/-- The bytes of a character. -/
def encodeChar (c : Char) : Bytes := String.utf8EncodeChar c

/-- The bytes of a text. -/
def encode (s : String) : Bytes := s.toList.flatMap encodeChar

/-- How many bytes the characters take. -/
def size (cs : List Char) : Nat := cs.foldr (·.utf8Size + ·) 0

/-- A text cut after some bytes, unless that would cut a character or the text
    has fewer. -/
def cutAt? : Nat → List Char → Option (List Char × List Char)
  | 0, cs => some ([], cs)
  | _ + 1, [] => none
  | n + 1, c :: cs =>
    if c.utf8Size ≤ n + 1 then
      (cutAt? (n + 1 - c.utf8Size) cs).map fun (front, rest) => (c :: front, rest)
    else none

/-- The part of a text between two numbers of bytes. -/
def slice? (start stop : Nat) (cs : List Char) : Option (List Char) := do
  let (front, _) ← cutAt? stop cs
  let (_, part) ← cutAt? start front
  return part

/-! ## Reading -/

/-- What the reading yields. -/
inductive Piece where
  | char (c : Char)
  /-- Bytes that start a character, up to the one that cannot go on with it. -/
  | broken
  deriving DecidableEq, Repr

/-- Where the reading stands between two bytes. -/
inductive State where
  /-- Between two characters. -/
  | start
  /-- Inside a character: `more` bytes follow the next one, which lies between
      `low` and `high`; the bits read so far make `value`. -/
  | inside (more : Nat) (low high : UInt8) (value : Nat)
  deriving DecidableEq, Repr

/-- The first byte of a character, with what it yields and where it leads. -/
def first (b : UInt8) : List Piece × State :=
  if b ≤ 0x7F then ([.char (Char.ofNat b.toNat)], .start)
  else if b < 0xC2 then ([.broken], .start)
  else if b ≤ 0xDF then ([], .inside 0 0x80 0xBF (b.toNat - 0xC0))
  else if b ≤ 0xEF then
    -- three bytes: no overlong form after E0, no surrogate after ED
    let low := if b = 0xE0 then 0xA0 else 0x80
    let high := if b = 0xED then 0x9F else 0xBF
    ([], .inside 1 low high (b.toNat - 0xE0))
  else if b ≤ 0xF4 then
    -- four bytes: no overlong form after F0, nothing beyond U+10FFFF after F4
    let low := if b = 0xF0 then 0x90 else 0x80
    let high := if b = 0xF4 then 0x8F else 0xBF
    ([], .inside 2 low high (b.toNat - 0xF0))
  else ([.broken], .start)

/-- One byte, with the pieces that it completes. -/
def step : State → UInt8 → List Piece × State
  | .start, b => first b
  | .inside more low high value, b =>
    if low ≤ b ∧ b ≤ high then
      let value := value * 64 + (b.toNat - 0x80)
      match more with
      | 0 => ([.char (Char.ofNat value)], .start)
      | more + 1 => ([], .inside more 0x80 0xBF value)
    else
      -- the run ends before `b`, which is read afresh
      (.broken :: (first b).1, (first b).2)

/-- The pieces of the bytes that follow a state. -/
def piecesFrom : State → Bytes → List Piece
  | .start, [] => []
  | .inside .., [] => [.broken]
  | state, b :: bs => (step state b).1 ++ piecesFrom (step state b).2 bs

/-- The pieces of a byte sequence. -/
def pieces (bs : Bytes) : List Piece := piecesFrom .start bs

/-- The character of a piece, if it is one. -/
def Piece.char? : Piece → Option Char
  | .char c => some c
  | .broken => none

/-- The character that shows a piece. -/
def Piece.shown : Piece → Char
  | .char c => c
  | .broken => '\uFFFD'

/-- The text that the bytes hold, if they hold characters only. -/
def decode? (bs : Bytes) : Option String :=
  ((pieces bs).mapM Piece.char?).map String.ofList

/-- The text that shows the bytes. -/
def lossy (bs : Bytes) : String :=
  String.ofList ((pieces bs).map Piece.shown)

end Utf8

end ClassAtlas
