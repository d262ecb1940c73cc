import ShapeInference.Decimal.Binary64
import ShapeInference.Members

/-! JSON values. The members of an object keep their order, and every key comes once. -/

set_option autoImplicit false

namespace ShapeInference

/-- An integer of 64 bits, signed or unsigned, or a double. -/
inductive Json.Number where
  | integer (value : Int)
  | double (value : Binary64)
  deriving DecidableEq, Repr

inductive Json where
  | null
  | bool (value : Bool)
  | number (value : Json.Number)
  | string (value : String)
  | array (elements : List Json)
  | object (members : List (String × Json))
  deriving Repr, BEq, Inhabited

end ShapeInference
