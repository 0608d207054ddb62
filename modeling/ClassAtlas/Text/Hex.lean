/-! # Hexadecimal digits

    Escapes in links and in quoted text write numbers in base sixteen.
-/

namespace ClassAtlas.Hex

/-- The value of a hexadecimal digit of either case. -/
def value? (c : Char) : Option Nat :=
  if '0' ≤ c ∧ c ≤ '9' then some (c.toNat - '0'.toNat)
  else if 'a' ≤ c ∧ c ≤ 'f' then some (c.toNat - 'a'.toNat + 10)
  else if 'A' ≤ c ∧ c ≤ 'F' then some (c.toNat - 'A'.toNat + 10)
  else none

/-- The uppercase digit of a value below sixteen. -/
def upper (n : Nat) : Char :=
  if n < 10 then Char.ofNat ('0'.toNat + n) else Char.ofNat ('A'.toNat + (n - 10))

/-- The lowercase digit of a value below sixteen. -/
def lower (n : Nat) : Char :=
  if n < 10 then Char.ofNat ('0'.toNat + n) else Char.ofNat ('a'.toNat + (n - 10))

/-- The two uppercase digits of a byte. -/
def byteUpper (b : UInt8) : List Char := [upper (b.toNat / 16), upper (b.toNat % 16)]

/-- The two lowercase digits of a byte. -/
def byteLower (b : UInt8) : List Char := [lower (b.toNat / 16), lower (b.toNat % 16)]

/-- The number that a list of hexadecimal digits writes. -/
def number? (cs : List Char) : Option Nat :=
  cs.foldlM (fun n c => (value? c).map (n * 16 + ·)) 0

end ClassAtlas.Hex
