import ClassAtlas.Number.Binary64

/-! # Shortest decimals

    A floating-point number is shown by the fewest decimal digits that are
    nearer to it than to any other, and among those by the nearest; of two
    equally near the one that ends in an even digit.

    Numbers from 10 ^ -5 up to 10 ^ 16 are written with a point, all others
    with one digit before the point and an exponent.
-/

namespace ClassAtlas

/-- The decimal `digits * 10 ^ exponent`. -/
structure Decimal where
  digits : Nat
  exponent : Int
  deriving DecidableEq, Repr

namespace Binary64

/-! ## Choosing the digits -/

/-- Compares `a * 10 ^ i` with `n * 2 ^ j`. -/
def compareScaled (a : Nat) (i : Int) (n : Nat) (j : Int) : Ordering :=
  compare (a * Nat.pow 10 i.toNat * Nat.pow 2 (-j).toNat)
    (n * Nat.pow 2 j.toNat * Nat.pow 10 (-i).toNat)

/-- Whether reading the decimal gives `x`: it lies between the points halfway
    to the neighbours of `x`, which count if the mantissa is even.  Below a
    power of two the neighbour is half as far away. -/
def isReadFrom (x : Binary64) (d : Decimal) : Bool :=
  let narrow := x.mantissa = Nat.pow 2 52 ∧ -1074 < x.exponent
  let low := 4 * x.mantissa - (if narrow then 1 else 2)
  let high := 4 * x.mantissa + 2
  let endsCount := x.mantissa % 2 == 0
  let below := compareScaled d.digits d.exponent low (x.exponent - 2)
  let above := compareScaled d.digits d.exponent high (x.exponent - 2)
  (below == .gt || (endsCount && below == .eq)) && (above == .lt || (endsCount && above == .eq))

/-- The least `k` with `num / den < 10 ^ k`. -/
def magnitude (num den : Nat) : Int :=
  if den ≤ num then (Nat.toDigits 10 (num / den)).length
  else
    -- the least power of ten that reaches the quotient the other way round
    let turned := (den + num - 1) / num
    1 - ((Nat.toDigits 10 (turned - 1)).length : Int)

/-- The decimal without zeros at its end. -/
def stripZeros : Nat → Decimal → Decimal
  | 0, d => d
  | fuel + 1, d =>
    if d.digits ≠ 0 ∧ d.digits % 10 = 0 then stripZeros fuel ⟨d.digits / 10, d.exponent + 1⟩
    else d

/-- The nearest decimal of at most `count` digits, if it reads as `x`. -/
def atMostDigits? (x : Binary64) (count : Nat) : Option Decimal :=
  let (num, den) := x.ratio
  let e := magnitude num den - count
  let n := num * Nat.pow 10 (-e).toNat
  let d := den * Nat.pow 10 e.toNat
  let below : Decimal := ⟨n / d, e⟩
  let above : Decimal := ⟨n / d + 1, e⟩
  match x.isReadFrom below, x.isReadFrom above with
  | false, false => none
  | true, false => some below
  | false, true => some above
  | true, true => some ⟨roundDiv n d, e⟩

/-- The shortest decimal that reads as `x`. -/
def shortest (x : Binary64) : Decimal :=
  match (List.range 17).findSome? fun n => x.atMostDigits? (n + 1) with
  | some d => stripZeros 20 d
  | none => ⟨x.ratio.1, 0⟩

/-! ## Writing them -/

/-- The text of the number `digits * 10 ^ exponent`. -/
def layout (digits : List Char) (exponent : Int) : List Char :=
  let leading : Int := digits.length - 1 + exponent
  if -5 ≤ leading ∧ leading ≤ 15 then
    if 0 ≤ exponent then digits ++ List.replicate exponent.toNat '0' ++ ['.', '0']
    else if 0 ≤ leading then
      digits.take (leading.toNat + 1) ++ '.' :: digits.drop (leading.toNat + 1)
    else ['0', '.'] ++ List.replicate (-leading - 1).toNat '0' ++ digits
  else
    let sign := if 0 ≤ leading then '+' else '-'
    let mantissa :=
      match digits with
      | [] => []
      | [d] => [d]
      | d :: ds => d :: '.' :: ds
    mantissa ++ ['e', sign] ++ Nat.toDigits 10 leading.natAbs

/-- The number as text. -/
def text (x : Binary64) : List Char :=
  if x.mantissa = 0 then ['0', '.', '0']
  else
    let d := x.shortest
    layout (Nat.toDigits 10 d.digits) d.exponent

end Binary64

end ClassAtlas
