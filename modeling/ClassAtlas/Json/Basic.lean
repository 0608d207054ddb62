/-! # JSON values

    The values that reports are made of.  The fields of an object stand in the
    order in which they are written.
-/

namespace ClassAtlas

inductive Json where
  | number (n : Nat)
  | string (s : String)
  | array (items : List Json)
  | object (fields : List (String × Json))
  deriving Repr

end ClassAtlas
