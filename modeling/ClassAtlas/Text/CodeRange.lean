/-! # Ranges of code points

    A property of characters is given by the ranges of the code points that
    have it.
-/

namespace ClassAtlas

/-- A range of code points, both ends included. -/
abbrev CodeRange : Type := Nat × Nat

namespace CodeRange

/-- Whether one of the ranges holds a character. -/
def anyHolds (ranges : List CodeRange) (c : Char) : Bool :=
  ranges.any fun r => r.1 ≤ c.toNat && c.toNat ≤ r.2

end CodeRange

end ClassAtlas
