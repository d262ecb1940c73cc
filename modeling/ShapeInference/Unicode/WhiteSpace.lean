/-! The `White_Space` property of Unicode 17.0: the controls from tab to carriage return, the space,
next line, and the separators of the categories Zs, Zl and Zp. -/

set_option autoImplicit false

namespace ShapeInference.Unicode

def isWhiteSpace (c : Char) : Bool :=
  (0x9 ≤ c.toNat && c.toNat ≤ 0xD) || c.toNat == 0x20 || c.toNat == 0x85 || c.toNat == 0xA0 ||
  c.toNat == 0x1680 || (0x2000 ≤ c.toNat && c.toNat ≤ 0x200A) || c.toNat == 0x2028 ||
  c.toNat == 0x2029 || c.toNat == 0x202F || c.toNat == 0x205F || c.toNat == 0x3000

end ShapeInference.Unicode
