import ShapeInference.Unicode.WhiteSpace
import ShapeInference.Url.Absolute

/-! Which strings count as URLs: absolute ones with a host and without any white space. -/

set_option autoImplicit false

namespace ShapeInference.Literal

def isUrl (text : String) : Bool :=
  !text.toList.any Unicode.isWhiteSpace && (Url.host? text.toList).isSome

end ShapeInference.Literal
