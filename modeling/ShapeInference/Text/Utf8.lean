/-! Text as bytes. -/

set_option autoImplicit false

namespace ShapeInference.Text

def utf8 (text : String) : List UInt8 := text.toUTF8.toList

/-- The text of bytes that are valid UTF-8. -/
def ofUtf8? (bytes : List UInt8) : Option String := String.fromUTF8? ⟨bytes.toArray⟩

end ShapeInference.Text
