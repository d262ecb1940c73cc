import ShapeInference.Text.Split
import ShapeInference.Unicode.CaseMapping

/-! Identifiers derived from the keys of documents.

A type name joins the underscore segments of a key, each with its head in upper case and its tail
as it was, so that `createdOn` gives `CreatedOn`. A property name is the type name with its head in
lower case.
-/

set_option autoImplicit false

namespace ShapeInference

def capitalize : List Char → List Char
  | [] => []
  | c :: rest => Unicode.upper c ++ rest

def typeNameChars (key : List Char) : List Char :=
  (Text.words '_' key).flatMap capitalize

def typeName (key : String) : String :=
  .ofList (typeNameChars key.toList)

/-- A key made of underscores alone has no type name and is its own property name. -/
def propertyName (key : String) : String :=
  match typeNameChars key.toList with
  | [] => key
  | c :: rest => .ofList (Unicode.lower c ++ rest)

@[simp] theorem typeNameChars_nil : typeNameChars [] = [] := rfl

@[simp] theorem toList_typeName (key : String) :
    (typeName key).toList = typeNameChars key.toList := by
  simp [typeName]

end ShapeInference
